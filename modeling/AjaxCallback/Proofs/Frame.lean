import AjaxCallback.Composition

/-!
# The frame of a composed call

Apart from the bodies of its two handlers a composed call is a fixed text, its frame. The frame
depends on the partial call, the precondition, the channel and the indicator, and on nothing else:
a decoration reaches the two bodies and, at the very end, the filled frame as a whole.
-/

namespace AjaxCallback

open Text

/-- The texts of a call around the bodies of its success and its failure handler. -/
structure Frame where
  opening : String
  between : String
  closing : String

def Frame.fill (frame : Frame) (success failure : String) : String :=
  frame.opening ++ success ++ frame.between ++ failure ++ frame.closing

theorem getD_empty_of_forall {P : String → Prop} (hempty : P "") {text : Option String}
    (h : ∀ s ∈ text, P s) : P (text.getD "") := by
  cases text with
  | none => exact hempty
  | some s => exact h s rfl

def handlerWrap : Wrap where
  before := ",function() \x7b "
  after := "\x7d.bind(this)"

def guardWrap : Wrap where
  before := ", function() \x7b"
  after := "\x7d.bind(this)"

def quotedWrap : Wrap where
  before := ", '"
  after := "'"

theorem render_handler (body : String) : (Slot.handler body).render = handlerWrap.around body := rfl

theorem render_guard (body : String) : (Slot.guard body).render = guardWrap.around body := rfl

theorem render_quoted (value : String) : (Slot.quoted value).render = quotedWrap.around value := rfl

theorem guardBody_none (precondition : String) : guardBody none precondition = precondition := rfl

theorem guardBody_some (id precondition : String) :
    guardBody (some id) precondition = "if (!function() \x7b" ++ precondition
      ++ "\x7d.bind(this)()) \x7b" ++ Client.hideIndicator id ++ "\x7d" ++ precondition := rfl

def optionalArguments (precondition : Option String) (channel : Option Channel) : String :=
  String.join ((Call.guardSlot precondition channel ++ Call.channelSlot channel).map Slot.render)

def guardArgument (body : Option String) (channel : Option Channel) : String :=
  String.join ((Call.guardSlot body channel).map Slot.render)

def channelArgument (channel : Option Channel) : String :=
  String.join ((Call.channelSlot channel).map Slot.render)

theorem optionalArguments_eq (body : Option String) (channel : Option Channel) :
    optionalArguments body channel = guardArgument body channel ++ channelArgument channel := by
  rw [optionalArguments, List.map_append, String.join_append, guardArgument, channelArgument]

theorem guardArgument_some (body : String) (channel : Option Channel) :
    guardArgument (some body) channel = guardWrap.around body := by
  simp [guardArgument, Call.guardSlot, render_guard]

theorem guardArgument_none_some (channel : Channel) :
    guardArgument none (some channel) = ", null" := by
  have hreserved : Slot.reserved.render = ", null" := rfl
  simp [guardArgument, Call.guardSlot, hreserved]

theorem guardArgument_none_none : guardArgument none none = "" := by
  simp [guardArgument, Call.guardSlot]

theorem channelArgument_some (channel : Channel) :
    channelArgument (some channel) = quotedWrap.around channel.name := by
  simp [channelArgument, Call.channelSlot, render_quoted]

theorem channelArgument_none : channelArgument none = "" := by
  simp [channelArgument, Call.channelSlot]

theorem Call.render_eq (call : Call) :
    call.render = "var wcall=" ++ call.partialCall ++ handlerWrap.around call.onSuccess
      ++ handlerWrap.around call.onFailure ++ optionalArguments call.precondition call.channel
      ++ ");" := by
  have hopening : "var " ++ Client.resultVariable ++ "=" = "var wcall=" := by decide
  simp only [Call.render, hopening, slots, List.map_append, List.map_cons, List.map_nil,
    List.append_assoc, String.join_append, String.join_cons, String.join_nil, render_handler,
    optionalArguments, String.append_empty, String.append_assoc]

namespace CallRequest

def frame (request : CallRequest) : Frame where
  opening := showStatement request.effectiveIndicator request.precondition ++ "var wcall="
    ++ request.partialCall ++ handlerWrap.before
  between := handlerWrap.after ++ handlerWrap.before
  closing := handlerWrap.after
    ++ optionalArguments (request.precondition.map (guardBody request.effectiveIndicator))
      request.channel
    ++ ");"

/-- The success handler is decorated before the statement that hides the indicator is appended, the
failure handler after it. -/
theorem statement_eq_fill (request : CallRequest) (c : Component) :
    request.statement c = request.frame.fill
      (request.decoration.decorate .success c (request.success.getD "")
        ++ hideSuffix request.effectiveIndicator)
      (request.decoration.decorate .failure c
        (request.failure.getD "" ++ hideSuffix request.effectiveIndicator)) := by
  rw [statement, Call.render_eq]
  simp only [call, frame, Frame.fill, Wrap.around, String.append_assoc]

theorem isBlank_fill_frame (request : CallRequest) (success failure : String) :
    isBlank (request.frame.fill success failure) = false := by
  have hassignment : isBlank "var wcall=" = false := by decide
  simp only [frame, Frame.fill, isBlank_append, hassignment, Bool.and_false, Bool.false_and]

theorem isBlank_statement (request : CallRequest) (c : Component) :
    isBlank (request.statement c) = false := by
  rw [request.statement_eq_fill]
  exact request.isBlank_fill_frame _ _

theorem effectiveIndicator_eq_none {request : CallRequest}
    (h : ∀ id ∈ request.indicatorId, isBlank id = true) : request.effectiveIndicator = none := by
  rw [effectiveIndicator, Option.filter_eq_none_iff]
  intro id hid
  simp [h id hid]

theorem effectiveIndicator_eq_some {request : CallRequest} {id : String}
    (hid : request.indicatorId = some id) (hblank : isBlank id = false) :
    request.effectiveIndicator = some id := by
  simp [effectiveIndicator, hid, hblank]

end CallRequest

theorem compose_eq_fill (c : Component) (request : CallRequest) :
    compose c request = request.decoration.decorate .script c (request.frame.fill
      (request.decoration.decorate .success c (request.success.getD "")
        ++ hideSuffix request.effectiveIndicator)
      (request.decoration.decorate .failure c
        (request.failure.getD "" ++ hideSuffix request.effectiveIndicator))) := by
  rw [compose, request.statement_eq_fill]

theorem compose_absent (c : Component) (request : CallRequest) (success failure : String) :
    compose c
        { request with success := some success, failure := some failure, decoration := .absent }
      = request.frame.fill (success ++ hideSuffix request.effectiveIndicator)
          (failure ++ hideSuffix request.effectiveIndicator) := by
  rw [compose_eq_fill]
  rfl

/-- The hooks of a decoration, as functions of their own. -/
def Decoration.HasHooks (d : Decoration) (hooks : Hook → Component → String → String) : Prop :=
  ∀ hook c text, d.decorate hook c text = hooks hook c text

theorem exists_hasHooks (hooks : Hook → Component → String → String) :
    ∃ d : Decoration, d.HasHooks hooks :=
  ⟨.custom { decorate := fun hook c _ text => hooks hook c text } .absent, fun _ _ _ => rfl⟩

/-- **Where the hooks stand.** The success hook is handed the raw text, the failure hook the text
with the statement that hides the indicator, and the script hook the whole call. That only the body
of the failure handler differs from a call without decoration is said by the two texts around it:
they are the same for every failure text. -/
theorem compose_hook_order (hooks : Hook → Component → String → String) :
    (∃ d : Decoration, d.HasHooks hooks) ∧
    ∀ (c : Component) (request : CallRequest), request.decoration.HasHooks hooks →
      let S := hooks .success c
      let F := hooks .failure c
      let D := hooks .script c
      let plain : CallRequest :=
        { request with success := some (S (request.success.getD "")), decoration := .absent }
      ((∀ id ∈ request.indicatorId, isBlank id = true) →
        compose c request
          = D (compose c { plain with failure := some (F (request.failure.getD "")) })) ∧
      ∀ id, request.indicatorId = some id → isBlank id = false →
        ∃ before after : String,
          (∀ failure : String, compose c { plain with failure := some failure }
            = before ++ (failure ++ (";" ++ Client.hideIndicator id)) ++ after) ∧
          compose c request
            = D (before ++ F (request.failure.getD "" ++ (";" ++ Client.hideIndicator id))
                ++ after) := by
  refine ⟨exists_hasHooks hooks, ?_⟩
  intro c request hhooks S F D plain
  have hplain (failure : String) :
      compose c { plain with failure := some failure }
        = request.frame.fill (S (request.success.getD "") ++ hideSuffix request.effectiveIndicator)
            (failure ++ hideSuffix request.effectiveIndicator) :=
    compose_absent c request _ failure
  have hcompose :
      compose c request
        = D (request.frame.fill
            (S (request.success.getD "") ++ hideSuffix request.effectiveIndicator)
            (F (request.failure.getD "" ++ hideSuffix request.effectiveIndicator))) := by
    rw [compose_eq_fill, hhooks, hhooks, hhooks]
  refine ⟨?_, ?_⟩
  · intro hblank
    have hnone : request.effectiveIndicator = none := CallRequest.effectiveIndicator_eq_none hblank
    rw [hnone] at hplain hcompose
    rw [hcompose, hplain]
    simp only [hideSuffix, String.append_empty]
  · intro id hid hblank
    have hsome : request.effectiveIndicator = some id :=
      CallRequest.effectiveIndicator_eq_some hid hblank
    rw [hsome] at hplain hcompose
    exact ⟨request.frame.opening ++ (S (request.success.getD "")
      ++ (";" ++ Client.hideIndicator id)) ++ request.frame.between, request.frame.closing,
      hplain, hcompose⟩

/-- A call whose hooks mark what they are handed; the failure hook forgets it. -/
def markedCall (id : String) (hooks : Hook → Component → String → String) : CallRequest where
  partialCall := "wicketAjaxGet('u'"
  success := some "ok();"
  failure := some "bad();"
  precondition := some "return true;"
  indicatorId := some id
  decoration := .custom { decorate := fun hook c _ text => hooks hook c text } .absent

theorem compose_hook_order_marked :
    let page : Component := .root { markupId := "page" }
    let hooks (hook : Hook) (c : Component) (text : String) : String := match hook with
      | .script => c.markupId ++ "<" ++ text ++ ">"
      | .success => "[" ++ text ++ "]"
      | .failure => "gone"
    let plain (id failure : String) : CallRequest :=
      { markedCall id hooks with
        success := some "[ok();]", failure := some failure, decoration := .absent }
    (∀ id, (markedCall id hooks).decoration.HasHooks hooks) ∧
    ((∀ id ∈ (markedCall " " hooks).indicatorId, isBlank id = true) ∧
      compose page (markedCall " " hooks)
        = "page" ++ "<" ++ compose page (plain " " "gone") ++ ">") ∧
    isBlank "busy" = false ∧
      ∃ before after : String,
        (∀ failure : String, compose page (plain "busy" failure)
          = before ++ (failure ++ (";" ++ Client.hideIndicator "busy")) ++ after) ∧
        compose page (markedCall "busy" hooks)
          = "page" ++ "<" ++ (before ++ "gone" ++ after) ++ ">" := by
  intro page hooks plain
  have hhooks (id : String) : (markedCall id hooks).decoration.HasHooks hooks := fun _ _ _ => rfl
  have hblank : ∀ id ∈ (markedCall " " hooks).indicatorId, isBlank id = true := by
    rintro id ⟨⟩
    decide
  have hbusy : isBlank "busy" = false := by decide
  exact ⟨hhooks, ⟨hblank, ((compose_hook_order hooks).2 page _ (hhooks " ")).1 hblank⟩, hbusy,
    ((compose_hook_order hooks).2 page _ (hhooks "busy")).2 "busy" rfl hbusy⟩

end AjaxCallback
