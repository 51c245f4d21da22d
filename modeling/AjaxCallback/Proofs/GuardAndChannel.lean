import AjaxCallback.Proofs.Frame
import AjaxCallback.Proofs.Splitting
import AjaxCallback.Proofs.Surround

/-!
# Guards and channels are told apart

Nothing is escaped on the way into a composed call, and a precondition may hold all that stands
around it. Still the call determines its precondition and its channel. The channel is read off the
end of the text, where a quote opens it that its name cannot hold. Once the channel is known, the
length of the text gives the length of the precondition, which stands near the front when there is
an indicator and is the only unknown when there is none.
-/

namespace AjaxCallback

open Text

/-! ### The arguments at the end -/

theorem quotedWrap_around_inj {s t m n : String} (hm : '\'' ∉ m.toList) (hn : '\'' ∉ n.toList)
    (h : s ++ quotedWrap.around m = t ++ quotedWrap.around n) : s = t ∧ m = n := by
  have hopening : quotedWrap.before.toList = [',', ' ', '\''] := by decide
  simp only [Wrap.around, ← String.append_assoc, String.append_left_inj] at h
  have hlist := congrArg String.toList h
  simp only [String.toList_append, hopening] at hlist
  have hsplit : (s.toList ++ [',', ' ']) ++ '\'' :: m.toList
      = (t.toList ++ [',', ' ']) ++ '\'' :: n.toList := by
    simpa using hlist
  obtain ⟨hst, hmn⟩ := append_cons_inj_of_not_mem hsplit hm hn
  exact ⟨String.toList_inj.mp (List.append_cancel_right hst), String.toList_inj.mp hmn⟩

theorem append_paren_ne_append_quoted (s t name : String) :
    s ++ ")" ≠ t ++ quotedWrap.around name := by
  intro h
  simp only [Wrap.around, ← String.append_assoc] at h
  have hlist := congrArg String.toList h
  rw [String.toList_append, String.toList_append] at hlist
  exact absurd (List.append_inj' hlist rfl).2 (by decide)

theorem guardArgument_none_ne (l : Option Channel) (body : String) :
    guardArgument none l ≠ guardWrap.around body := by
  have hguard : guardWrap.before = ", f" ++ "unction() \x7b" := by decide
  rw [Wrap.around, hguard, String.append_assoc, String.append_assoc]
  cases l with
  | none =>
      rw [guardArgument_none_none]
      intro h
      have hlength := congrArg String.length h
      have hempty : "".length = 0 := rfl
      have hstart : ", f".length = 3 := by decide
      rw [String.length_append] at hlength
      omega
  | some k =>
      have hreserved : ", null" = ", n" ++ "ull" := by decide
      rw [guardArgument_none_some, hreserved]
      exact append_ne_append (by decide) (by decide) _ _

theorem guardArgument_inj {p p' : Option String} {l : Option Channel}
    (h : guardArgument p l = guardArgument p' l) : p = p' := by
  cases p with
  | none =>
      cases p' with
      | none => rfl
      | some q => exact absurd (h.trans (guardArgument_some q l)) (guardArgument_none_ne l q)
  | some q =>
      rw [guardArgument_some] at h
      cases p' with
      | none => exact absurd h.symm (guardArgument_none_ne l q)
      | some q' =>
          rw [guardArgument_some, Wrap.around, Wrap.around, String.append_left_inj,
            String.append_right_inj] at h
          rw [h]

/-! ### The front of the call and its end -/

namespace CallRequest

def guarded (request : CallRequest) (precondition : Option String) (channel : Option Channel) :
    CallRequest :=
  { request with precondition := precondition, channel := channel }

/-- What stands between the statement that shows the indicator and the guard. -/
def core (request : CallRequest) (c : Component) : String :=
  "var wcall=" ++ request.partialCall ++ handlerWrap.around (request.call c).onSuccess
    ++ handlerWrap.around (request.call c).onFailure

def untilChannel (request : CallRequest) (c : Component) (precondition : Option String)
    (channel : Option Channel) : String :=
  showStatement request.effectiveIndicator precondition ++ request.core c
    ++ guardArgument (precondition.map (guardBody request.effectiveIndicator)) channel

theorem statement_guarded (request : CallRequest) (c : Component) (precondition : Option String)
    (channel : Option Channel) :
    (request.guarded precondition channel).statement c
      = request.untilChannel c precondition channel ++ channelArgument channel ++ ");" := by
  rw [statement, Call.render_eq, optionalArguments_eq, untilChannel, core]
  simp only [call, guarded, String.append_assoc]
  rfl

theorem exists_untilChannel_eq_append (request : CallRequest) (c : Component)
    (precondition : Option String) :
    ∃ text : String, request.untilChannel c precondition none = text ++ ")" := by
  have hhandler : handlerWrap.after = "\x7d.bind(this" ++ ")" := by decide
  have hguard : guardWrap.after = "\x7d.bind(this" ++ ")" := by decide
  cases precondition with
  | none =>
      rw [untilChannel, core, Option.map_none, guardArgument_none_none, Wrap.around, Wrap.around,
        hhandler]
      simp only [String.append_empty, ← String.append_assoc]
      exact ⟨_, rfl⟩
  | some p =>
      rw [untilChannel, Option.map_some, guardArgument_some, Wrap.around, hguard]
      simp only [← String.append_assoc]
      exact ⟨_, rfl⟩

theorem channel_eq_of_statement_eq {request : CallRequest} {c : Component}
    {p p' : Option String} {l l' : Option Channel} (hl : ∀ k ∈ l, '\'' ∉ k.name.toList)
    (hl' : ∀ k ∈ l', '\'' ∉ k.name.toList)
    (h : (request.guarded p l).statement c = (request.guarded p' l').statement c) :
    l = l' ∧ request.untilChannel c p l = request.untilChannel c p' l' := by
  rw [statement_guarded, statement_guarded, String.append_left_inj] at h
  -- Without a channel the text ends in the parenthesis of a handler or a guard, with one it ends in
  -- a quote.
  cases l with
  | none =>
      cases l' with
      | none => exact ⟨rfl, by simpa [channelArgument_none] using h⟩
      | some k' =>
          obtain ⟨text, htext⟩ := request.exists_untilChannel_eq_append c p
          rw [channelArgument_none, String.append_empty, channelArgument_some, htext] at h
          exact absurd h (append_paren_ne_append_quoted _ _ _)
  | some k =>
      cases l' with
      | none =>
          obtain ⟨text, htext⟩ := request.exists_untilChannel_eq_append c p'
          rw [channelArgument_none, String.append_empty, channelArgument_some, htext] at h
          exact absurd h.symm (append_paren_ne_append_quoted _ _ _)
      | some k' =>
          rw [channelArgument_some, channelArgument_some] at h
          obtain ⟨huntil, hname⟩ := quotedWrap_around_inj (hl k rfl) (hl' k' rfl) h
          obtain rfl : k = k' := by rw [← Channel.mk.injEq] at hname; exact hname
          exact ⟨rfl, huntil⟩

theorem precondition_eq_of_no_indicator {request : CallRequest} {c : Component}
    {p p' : Option String} {l : Option Channel} (hindicator : request.effectiveIndicator = none)
    (h : request.untilChannel c p l = request.untilChannel c p' l) : p = p' := by
  -- Nothing shows the indicator, and the body of the guard is the precondition itself.
  have hguard (q : Option String) : q.map (guardBody none) = q := by
    cases q with
    | none => rfl
    | some q => rw [Option.map_some, guardBody_none]
  simp only [untilChannel, hindicator, hguard, showStatement, String.append_right_inj] at h
  exact guardArgument_inj h

theorem showStatement_some_some (id p : String) :
    showStatement (some id) (some p) = "if (" ++ ("function()\x7b" ++ p ++ "\x7d.bind(this)()")
      ++ ") \x7b " ++ Client.showIndicator id ++ "\x7d" := rfl

theorem showStatement_some_none (id : String) :
    showStatement (some id) none
      = "if (" ++ "true" ++ ") \x7b " ++ Client.showIndicator id ++ "\x7d" := rfl

theorem untilChannel_none_ne_some {request : CallRequest} {id : String}
    (hindicator : request.effectiveIndicator = some id) (c : Component) (p : String)
    (l : Option Channel) :
    request.untilChannel c none l ≠ request.untilChannel c (some p) l := by
  -- The condition of the statement that shows the indicator is `true`, or calls a function.
  have htrue : "true" = "t" ++ "rue" := by decide
  have hfunction : "function()\x7b" = "f" ++ "unction()\x7b" := by decide
  rw [untilChannel, untilChannel, hindicator, showStatement_some_none, showStatement_some_some,
    htrue, hfunction]
  simp only [String.append_assoc, ne_eq, String.append_right_inj]
  exact append_ne_append (by decide) (by decide) _ _

theorem precondition_eq_of_some {request : CallRequest} {id : String}
    (hindicator : request.effectiveIndicator = some id) {c : Component} {p p' : String}
    {l : Option Channel}
    (h : request.untilChannel c (some p) l = request.untilChannel c (some p') l) : p = p' := by
  simp only [untilChannel, hindicator, Option.map_some, guardArgument_some, guardBody_some,
    showStatement_some_some, Wrap.around] at h
  -- The precondition stands three times in the text, the last time without anything to mark its
  -- end, so its length comes first. The place at the front then gives the precondition itself.
  have hlength : p.length = p'.length := by
    have hlengths := congrArg String.length h
    simp only [String.length_append] at hlengths
    omega
  simp only [String.append_assoc, String.append_right_inj] at h
  exact (append_inj_of_length_eq h hlength).1

theorem precondition_eq_of_untilChannel_eq {request : CallRequest} {c : Component}
    {p p' : Option String} {l : Option Channel}
    (h : request.untilChannel c p l = request.untilChannel c p' l) : p = p' := by
  cases hindicator : request.effectiveIndicator with
  | none => exact precondition_eq_of_no_indicator hindicator h
  | some id =>
      cases p with
      | none =>
          cases p' with
          | none => rfl
          | some q' => exact absurd h (untilChannel_none_ne_some hindicator c q' l)
      | some q =>
          cases p' with
          | none => exact absurd h.symm (untilChannel_none_ne_some hindicator c q l)
          | some q' => rw [precondition_eq_of_some hindicator h]

end CallRequest

/-- **Guards and channels are told apart.** A composed call determines its precondition and its
channel, whatever the precondition holds, as long as the names of channels hold no quote. -/
theorem compose_guarded_eq_iff (c : Component) {request : CallRequest}
    (hdecoration : request.decoration.BuiltIn) (p p' : Option String) {l l' : Option Channel}
    (hl : ∀ k ∈ l, '\'' ∉ k.name.toList) (hl' : ∀ k ∈ l', '\'' ∉ k.name.toList) :
    compose c { request with precondition := p, channel := l }
        = compose c { request with precondition := p', channel := l' }
      ↔ p = p' ∧ l = l' := by
  have hcompose (q : Option String) (k : Option Channel) :
      compose c { request with precondition := q, channel := k }
        = (request.decoration.surround .script).around ((request.guarded q k).statement c) :=
    hdecoration.decorate_script c ((request.guarded q k).isBlank_statement c)
  constructor
  · intro h
    rw [hcompose, hcompose, Wrap.around, Wrap.around, String.append_left_inj,
      String.append_right_inj] at h
    obtain ⟨rfl, huntil⟩ := CallRequest.channel_eq_of_statement_eq hl hl' h
    exact ⟨CallRequest.precondition_eq_of_untilChannel_eq huntil, rfl⟩
  · rintro ⟨rfl, rfl⟩
    rfl

def searchCall (t : Throttle) : CallRequest where
  partialCall := "wicketAjaxGet('u'"
  failure := some "alert(', null');"
  indicatorId := some "busy"
  decoration := .after (.cancelEvent .absent) (.throttle t .absent)

theorem compose_guarded_eq_iff_search :
    let page : Component := .root { markupId := "page" }
    let t : Throttle := ⟨"typing", .ofMilliseconds 500, by decide⟩
    let variant (p : Option String) (l : Option Channel) : String :=
      compose page { searchCall t with precondition := p, channel := l }
    (searchCall t).decoration.BuiltIn ∧
      (∀ k ∈ some (Channel.mk ""), '\'' ∉ k.name.toList) ∧
      variant none none ≠ variant none (some ⟨""⟩) ∧
      variant none none ≠ variant (some "") none ∧
      variant none none ≠ variant (some "") (some ⟨""⟩) ∧
      variant none (some ⟨""⟩) ≠ variant (some "") none ∧
      variant none (some ⟨""⟩) ≠ variant (some "") (some ⟨""⟩) ∧
      variant (some "") none ≠ variant (some "") (some ⟨""⟩) := by
  intro page t variant
  have hdecoration : (searchCall t).decoration.BuiltIn :=
    .after (.cancelEvent .absent) (.throttle t .absent)
  have hname : ∀ k ∈ some (Channel.mk ""), '\'' ∉ k.name.toList := by
    rintro k ⟨⟩
    decide
  have hdistinct {p p' : Option String} {l l' : Option Channel}
      (hl : ∀ k ∈ l, '\'' ∉ k.name.toList) (hl' : ∀ k ∈ l', '\'' ∉ k.name.toList)
      (hne : ¬ (p = p' ∧ l = l')) : variant p l ≠ variant p' l' :=
    fun h => hne ((compose_guarded_eq_iff page hdecoration p p' hl hl').mp h)
  have hnone : ∀ k ∈ (none : Option Channel), '\'' ∉ k.name.toList := nofun
  exact ⟨hdecoration, hname, hdistinct hnone hname (by decide), hdistinct hnone hnone (by decide),
    hdistinct hnone hname (by decide), hdistinct hname hnone (by decide),
    hdistinct hname hname (by decide), hdistinct hnone hname (by decide)⟩

end AjaxCallback
