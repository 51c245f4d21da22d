import AjaxCallback.Proofs.Brackets
import AjaxCallback.Proofs.Frame
import AjaxCallback.Proofs.Surround

/-!
# Composing keeps brackets nested

Every text that composing writes around a piece of the request opens and closes brackets of its own
only, so a call made of balanced pieces is balanced. The exceptions are the partial call, which
still lacks its closing parenthesis, and the two halves of a wrap, which are balanced together.
-/

namespace AjaxCallback

open Text

theorem Wrap.balanced_around {w : Wrap} (hw : Balanced (w.before ++ w.after)) {text : String}
    (htext : Balanced text) : Balanced (w.around text) := by
  rw [around, String.append_assoc]
  exact hw.insert htext

/-! ### Decorations -/

namespace Leaf

def WellBracketed : Leaf → Prop
  | cancelEvent => True
  | throttle t => Balanced t.id
  | wrap w => ∀ hook, Balanced ((w.wrap hook).before ++ (w.wrap hook).after)

end Leaf

theorem Throttle.balanced_apply {t : Throttle} (hid : Balanced t.id) {script : String}
    (hscript : Balanced script) : Balanced (t.apply script) := by
  cases hblank : isBlank script with
  | true => rwa [t.apply_of_blank hblank]
  | false =>
      have hparts : Balanced (Client.throttleFunction ++ "( '" ++ "', "
          ++ (", function() \x7b " ++ throttleClosing)) := by decide
      have hopening : Balanced (throttleOpening t.id t.delay ++ throttleClosing) := by
        have hfilled := hparts.insert_two hid (balanced_toString t.delay.wholeMilliseconds)
        simpa only [throttleOpening, String.append_assoc] using hfilled
      rw [t.apply_of_not_blank hblank, String.append_assoc]
      exact hopening.insert hscript

theorem Leaf.WellBracketed.balanced_decorate {leaf : Leaf} (hleaf : leaf.WellBracketed)
    (hook : Hook) {text : String} (htext : Balanced text) : Balanced (leaf.decorate hook text) := by
  cases leaf with
  | cancelEvent =>
      have hcancel : Balanced Client.cancelEvent := by decide
      cases hook with
      | script => exact htext.append hcancel
      | success => exact htext
      | failure => exact htext
  | throttle t =>
      cases hook with
      | script => exact t.balanced_apply hleaf htext
      | success => exact htext
      | failure => exact htext
  | wrap w => exact Wrap.balanced_around (hleaf hook) htext

theorem Decoration.BuiltIn.balanced_decorate {d : Decoration} (hd : d.BuiltIn)
    (hleaves : ∀ leaf ∈ d.leaves, leaf.WellBracketed) (hook : Hook) (c : Component) {text : String}
    (htext : Balanced text) : Balanced (d.decorate hook c text) := by
  rw [hd.decorate_eq_foldr]
  generalize d.leaves = leaves at hleaves
  induction leaves with
  | nil => exact htext
  | cons leaf leaves ih =>
      have hrest := ih fun l hl => hleaves l (List.mem_cons_of_mem _ hl)
      exact (hleaves leaf List.mem_cons_self).balanced_decorate hook hrest

/-! ### The call -/

theorem balanced_call_quoted {function id : String} (hfunction : Balanced function)
    (hid : Balanced id) : Balanced (function ++ "('" ++ id ++ "');") := by
  have hparts : Balanced ("('" ++ "');") := by decide
  have hcall := hfunction.append (hparts.insert hid)
  simpa only [String.append_assoc] using hcall

theorem balanced_showIndicator {id : String} (hid : Balanced id) :
    Balanced (Client.showIndicator id) :=
  balanced_call_quoted (by decide) hid

theorem balanced_hideIndicator {id : String} (hid : Balanced id) :
    Balanced (Client.hideIndicator id) :=
  balanced_call_quoted (by decide) hid

theorem balanced_hideSuffix {indicator : Option String} (hid : ∀ id ∈ indicator, Balanced id) :
    Balanced (hideSuffix indicator) := by
  cases indicator with
  | none => exact balanced_empty
  | some id =>
      have hsemicolon : Balanced ";" := by decide
      exact hsemicolon.append (balanced_hideIndicator (hid id rfl))

theorem balanced_guardBody {indicator : Option String} {precondition : String}
    (hid : ∀ id ∈ indicator, Balanced id) (hprecondition : Balanced precondition) :
    Balanced (guardBody indicator precondition) := by
  cases indicator with
  | none => exact hprecondition
  | some id =>
      have hparts : Balanced ("if (!function() \x7b" ++ "\x7d.bind(this)()) \x7b" ++ "\x7d") := by
        decide
      have hrevert := hparts.insert_two hprecondition (balanced_hideIndicator (hid id rfl))
      rw [guardBody_some]
      simpa only [String.append_assoc] using hrevert.append hprecondition

theorem balanced_showStatement {indicator precondition : Option String}
    (hid : ∀ id ∈ indicator, Balanced id) (hprecondition : ∀ p ∈ precondition, Balanced p) :
    Balanced (showStatement indicator precondition) := by
  cases indicator with
  | none => exact balanced_empty
  | some id =>
      have hcondition : Balanced (showCondition precondition) := by
        cases precondition with
        | none =>
            have htrue : Balanced "true" := by decide
            exact htrue
        | some p =>
            have hparts : Balanced ("function()\x7b" ++ "\x7d.bind(this)()") := by decide
            rw [showCondition, String.append_assoc]
            exact hparts.insert (hprecondition p rfl)
      have hparts : Balanced ("if (" ++ ") \x7b " ++ "\x7d") := by decide
      have hfilled := hparts.insert_two hcondition (balanced_showIndicator (hid id rfl))
      simpa only [showStatement, String.append_assoc] using hfilled

theorem balanced_optionalArguments {precondition : Option String} {channel : Option Channel}
    (hprecondition : ∀ p ∈ precondition, Balanced p) (hchannel : ∀ l ∈ channel, Balanced l.name) :
    Balanced (optionalArguments precondition channel) := by
  have hguard : Balanced (guardArgument precondition channel) := by
    cases precondition with
    | none =>
        have hreserved : Balanced ", null" := by decide
        cases channel with
        | none => exact guardArgument_none_none ▸ balanced_empty
        | some l => exact guardArgument_none_some l ▸ hreserved
    | some p =>
        rw [guardArgument_some]
        exact Wrap.balanced_around (by decide) (hprecondition p rfl)
  have hquoted : Balanced (channelArgument channel) := by
    cases channel with
    | none => exact channelArgument_none ▸ balanced_empty
    | some l =>
        rw [channelArgument_some]
        exact Wrap.balanced_around (by decide) (hchannel l rfl)
  rw [optionalArguments_eq]
  exact hguard.append hquoted

/-- The closing parenthesis that the partial call lacks is written behind the arguments. -/
theorem Call.balanced_render {call : Call} (hpartial : Balanced (call.partialCall ++ ")"))
    (hsuccess : Balanced call.onSuccess) (hfailure : Balanced call.onFailure)
    (hprecondition : ∀ p ∈ call.precondition, Balanced p)
    (hchannel : ∀ l ∈ call.channel, Balanced l.name) : Balanced call.render := by
  have hwrap : Balanced (handlerWrap.before ++ handlerWrap.after) := by decide
  have hhandlers := (Wrap.balanced_around hwrap hsuccess).append
    (Wrap.balanced_around hwrap hfailure)
  have harguments := hhandlers.append (balanced_optionalArguments hprecondition hchannel)
  have hvar : Balanced "var wcall=" := by decide
  have hsemicolon : Balanced ";" := by decide
  have hend : ")" ++ ";" = ");" := by decide
  have hwhole := hvar.append ((hpartial.insert harguments).append hsemicolon)
  rw [Call.render_eq, ← hend]
  simpa only [String.append_assoc] using hwhole

/-! ### The main statement -/

/-- A request made of balanced pieces: what is present of it is balanced, and the partial call lacks
its closing parenthesis only. -/
structure CallRequest.WellBracketed (request : CallRequest) : Prop where
  partialCall : Balanced (request.partialCall ++ ")")
  success : ∀ s ∈ request.success, Balanced s
  failure : ∀ s ∈ request.failure, Balanced s
  precondition : ∀ p ∈ request.precondition, Balanced p
  indicator : ∀ id ∈ request.indicatorId, Balanced id
  channel : ∀ l ∈ request.channel, Balanced l.name
  builtIn : request.decoration.BuiltIn
  leaves : ∀ leaf ∈ request.decoration.leaves, leaf.WellBracketed

theorem balanced_getD {text : Option String} (h : ∀ s ∈ text, Balanced s) :
    Balanced (text.getD "") :=
  getD_empty_of_forall balanced_empty h

/-- **Composing keeps brackets nested.** -/
theorem compose_balanced (c : Component) {request : CallRequest} (h : request.WellBracketed) :
    Balanced (compose c request) := by
  have hdecorate (hook : Hook) {text : String} (htext : Balanced text) :
      Balanced (request.decoration.decorate hook c text) :=
    h.builtIn.balanced_decorate h.leaves hook c htext
  have hid : ∀ id ∈ request.effectiveIndicator, Balanced id := by
    intro id hid
    exact h.indicator id (Option.eq_some_of_filter_eq_some hid)
  have hhide := balanced_hideSuffix hid
  have hguard : ∀ p ∈ request.precondition.map (guardBody request.effectiveIndicator),
      Balanced p := by
    intro p hp
    obtain ⟨precondition, hprecondition, rfl⟩ := Option.map_eq_some_iff.mp hp
    exact balanced_guardBody hid (h.precondition precondition hprecondition)
  have hsuccess : Balanced (request.call c).onSuccess :=
    (hdecorate .success (balanced_getD h.success)).append hhide
  have hfailure : Balanced (request.call c).onFailure :=
    hdecorate .failure ((balanced_getD h.failure).append hhide)
  have hcall : Balanced (request.call c).render :=
    Call.balanced_render h.partialCall hsuccess hfailure hguard h.channel
  exact hdecorate .script ((balanced_showStatement hid h.precondition).append hcall)

def guardWrapping : Wrapping where
  script := ⟨"if (ready()) \x7b", "\x7d"⟩
  failure := ⟨"log([", "]);"⟩

def bracketedCall (t : Throttle) : CallRequest where
  partialCall := "wicketAjaxGet('?id=' + ids[0]"
  success := some "refresh();"
  precondition := some "return (open());"
  indicatorId := some "busy"
  channel := some ⟨"search|d"⟩
  decoration := .before (.throttle t (.wrap guardWrapping .absent)) (.cancelEvent .absent)

theorem compose_balanced_bracketedCall :
    let t : Throttle := ⟨"typing", .ofMilliseconds 500, by decide⟩
    (bracketedCall t).WellBracketed ∧
      Balanced (compose (.root { markupId := "page" }) (bracketedCall t)) := by
  intro t
  have hbuiltIn : (bracketedCall t).decoration.BuiltIn :=
    .before (.throttle t (.wrap guardWrapping .absent)) (.cancelEvent .absent)
  have hid : Balanced t.id := by decide
  have hwrapping (hook : Hook) :
      Balanced ((guardWrapping.wrap hook).before ++ (guardWrapping.wrap hook).after) := by
    cases hook <;> decide
  have hbracketed : (bracketedCall t).WellBracketed :=
    { partialCall := by decide
      success := by rintro _ ⟨⟩; decide
      failure := by rintro _ ⟨⟩
      precondition := by rintro _ ⟨⟩; decide
      indicator := by rintro _ ⟨⟩; decide
      channel := by rintro _ ⟨⟩; decide
      builtIn := hbuiltIn
      leaves := by
        rintro leaf hleaf
        simp only [bracketedCall, Decoration.leaves, List.cons_append, List.nil_append,
          List.mem_cons, List.not_mem_nil, or_false] at hleaf
        rcases hleaf with rfl | rfl | rfl
        · exact trivial
        · exact hid
        · exact hwrapping }
  exact ⟨hbracketed, compose_balanced _ hbracketed⟩

end AjaxCallback
