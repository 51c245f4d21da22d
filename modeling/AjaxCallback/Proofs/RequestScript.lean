import AjaxCallback.Request
import AjaxCallback.Proofs.Frame
import AjaxCallback.Proofs.Surround

/-!
# The script of a request

The decorations of a request are a list of plain data, its script comes from a chain of links. The
chain puts the texts of the list around the call, in the order of the list before it and in reverse
order after it.
-/

namespace AjaxCallback

open Text

theorem Throttle.ofId_eq_ok {id : String} {delay : Delay} {t : Throttle}
    (h : Throttle.ofId id delay = .ok t) : t.id = id ∧ t.delay = delay := by
  rw [Throttle.ofId] at h
  split at h
  · rw [← Except.ok.inj h]
    exact ⟨rfl, rfl⟩
  · cases h

namespace DecorationSpec

def throttleBefore (id : String) (milliseconds : Nat) : String :=
  "wicketThrottler.throttle( '" ++ id ++ "', " ++ toString milliseconds ++ ", function() \x7b "

/-- What a decoration puts around a text that is not blank. -/
def surround : DecorationSpec → Hook → Wrap
  | cancelEvent, .script => { after := "return !wcall;" }
  | cancelEvent, .success | cancelEvent, .failure => {}
  | throttle id milliseconds, .script =>
    { before := throttleBefore id milliseconds, after := "\x7d.bind(this));" }
  | throttle _ _, .success | throttle _ _, .failure => {}
  | wrap w, hook => w.wrap hook

theorem throttleOpening_ofMilliseconds (id : String) (milliseconds : Nat) :
    throttleOpening id (.ofMilliseconds milliseconds) = throttleBefore id milliseconds := by
  have hname : Client.throttleFunction ++ "( '" = "wicketThrottler.throttle( '" := by decide
  rw [throttleOpening, Delay.wholeMilliseconds_ofMilliseconds, hname]
  rfl

/-- The leaf that a decoration comes to. -/
inductive Yields : DecorationSpec → Leaf → Prop
  | cancelEvent : Yields cancelEvent .cancelEvent
  | throttle {t : Throttle} {milliseconds : Nat} (hdelay : t.delay = .ofMilliseconds milliseconds) :
      Yields (throttle t.id milliseconds) (.throttle t)
  | wrap (w : Wrapping) : Yields (wrap w) (.wrap w)

theorem Yields.surround_eq {spec : DecorationSpec} {leaf : Leaf} (h : spec.Yields leaf)
    (hook : Hook) : leaf.surround hook = spec.surround hook := by
  cases h with
  | cancelEvent => cases hook <;> rfl
  | throttle hdelay =>
      cases hook with
      | script =>
          rw [Leaf.surround, surround, hdelay, throttleOpening_ofMilliseconds, throttleClosing]
      | success => rfl
      | failure => rfl
  | wrap w => rfl

theorem link_eq_ok {spec : DecorationSpec} {delegate d : Decoration}
    (h : spec.link delegate = .ok d) : ∃ leaf, spec.Yields leaf ∧ d = leaf.link delegate := by
  cases spec with
  | cancelEvent =>
      obtain rfl : Decoration.cancelEvent delegate = d := Except.ok.inj h
      exact ⟨.cancelEvent, .cancelEvent, rfl⟩
  | throttle id milliseconds =>
      cases hofId : Throttle.ofId id (.ofMilliseconds milliseconds) with
      | error e =>
          rw [link, hofId] at h
          cases h
      | ok t =>
          rw [link, hofId] at h
          obtain rfl : Decoration.throttle t delegate = d := Except.ok.inj h
          obtain ⟨rfl, hdelay⟩ := Throttle.ofId_eq_ok hofId
          exact ⟨.throttle t, .throttle hdelay, rfl⟩
  | wrap w =>
      obtain rfl : Decoration.wrap w delegate = d := Except.ok.inj h
      exact ⟨.wrap w, .wrap w, rfl⟩

/-- The chain of a list has one leaf for each decoration, in the order of the list. -/
theorem chain_eq_ok {specs : List DecorationSpec} {d : Decoration} (h : chain specs = .ok d) :
    d.BuiltIn ∧ ∀ hook,
      (d.leaves.map fun leaf => leaf.surround hook) = specs.map fun spec => spec.surround hook := by
  induction specs generalizing d with
  | nil =>
      obtain rfl : Decoration.absent = d := Except.ok.inj h
      exact ⟨.absent, fun _ => rfl⟩
  | cons spec rest ih =>
      cases hrest : chain rest with
      | error e =>
          rw [chain, hrest] at h
          cases h
      | ok delegate =>
          rw [chain, hrest] at h
          obtain ⟨leaf, hleaf, rfl⟩ := link_eq_ok h
          obtain ⟨hdelegate, hmap⟩ := ih hrest
          refine ⟨hdelegate.link leaf, fun hook => ?_⟩
          rw [Decoration.leaves_link, List.map_cons, List.map_cons, hmap, hleaf.surround_eq]

theorem decorate_of_chain {specs : List DecorationSpec} {d : Decoration} (h : chain specs = .ok d)
    {hook : Hook} (c : Component) {text : String} (htext : hook = .script → isBlank text = false) :
    d.decorate hook c text
      = (Wrap.nested (specs.map fun spec => spec.surround hook)).around text := by
  obtain ⟨hd, hmap⟩ := chain_eq_ok h
  rw [hd.decorate_eq_around c htext, Decoration.surround, hmap]

end DecorationSpec

namespace Request

/-- The call of a request without its decorations. -/
def undecorated (request : Request) : CallRequest where
  partialCall := request.partialCall.getD ("wicketAjaxGet('" ++ request.callbackUrl.getD "" ++ "'")
  success := request.success
  failure := request.failure
  precondition := match request.precondition with
    | .enabled true => some (defaultPrecondition request.component.toComponent)
    | .enabled false => none
    | .script text => some text
  indicatorId := request.component.toComponent.indicatorFor request.indicator
  channel := request.channel.map Channel.mk

def surround (request : Request) (hook : Hook) : Wrap :=
  .nested (request.decorations.map fun spec => spec.surround hook)

def behavior (request : Request) (d : Decoration) : Behavior where
  component := request.component.toComponent
  callbackUrl := request.callbackUrl.getD ""
  success := request.success
  failure := request.failure
  precondition := request.precondition.toPrecondition
  channel := request.channel.map Channel.mk
  indicator := request.indicator
  decoration := d

theorem build_eq_ok {request : Request} {call : ConfiguredCall} (h : request.build = .ok call) :
    ∃ d : Decoration, DecorationSpec.chain request.decorations = .ok d ∧
      call = { behavior := request.behavior d, partialCall := request.partialCall } := by
  rw [build] at h
  split at h
  · cases h
  · cases hchain : DecorationSpec.chain request.decorations with
    | error e =>
        rw [hchain] at h
        cases h
    | ok d =>
        rw [hchain] at h
        exact ⟨d, rfl, (Except.ok.inj h).symm⟩

theorem request_behavior (request : Request) (d : Decoration) (partialCall : String) :
    (request.behavior d).request partialCall
      = { request.undecorated with partialCall := partialCall, decoration := d } := by
  have hprecondition :
      (request.behavior d).preconditionScript = request.undecorated.precondition := by
    rw [Behavior.preconditionScript, behavior, undecorated]
    cases request.precondition with
    | enabled wanted => cases wanted <;> rfl
    | script text => rfl
  rw [Behavior.request, hprecondition]
  rfl

/-- The partial call is the one given, else the GET call to the callback url. -/
theorem script_behavior (request : Request) (d : Decoration) :
    ConfiguredCall.script { behavior := request.behavior d, partialCall := request.partialCall }
      = compose request.component.toComponent { request.undecorated with decoration := d } := by
  have hcomplete (partialCall : String) (hcall : request.undecorated.partialCall = partialCall) :
      (request.behavior d).complete partialCall
        = compose request.component.toComponent { request.undecorated with decoration := d } := by
    subst hcall
    exact congrArg (compose _) (request.request_behavior d _)
  cases hpartial : request.partialCall with
  | none =>
      have hname : Client.getFunction ++ "('" = "wicketAjaxGet('" := by decide
      apply hcomplete
      rw [undecorated, hpartial, ← hname]
      rfl
  | some partialCall =>
      apply hcomplete
      rw [undecorated, hpartial]
      rfl

end Request

/-- **The script of a request.** The texts for the whole script stand around the call, those for the
success handler around its raw text, and those for the failure handler around its text with the
statement that hides the indicator. The frame is that of the call without decorations: the first
part fixes it, since it holds for all bodies of the handlers. -/
theorem script_of_build {request : Request} {call : ConfiguredCall}
    (hbuild : request.build = .ok call) :
    let c := request.component.toComponent
    let plain := request.undecorated
    let hide := hideSuffix plain.effectiveIndicator
    ∃ frame : Frame,
      (∀ success failure : String,
        compose c { plain with success := some success, failure := some failure }
          = frame.fill (success ++ hide) (failure ++ hide)) ∧
      call.script = (request.surround .script).around (frame.fill
        ((request.surround .success).around (request.success.getD "") ++ hide)
        ((request.surround .failure).around (request.failure.getD "" ++ hide))) := by
  intro c plain hide
  obtain ⟨d, hchain, rfl⟩ := Request.build_eq_ok hbuild
  refine ⟨plain.frame, fun success failure => compose_absent _ plain success failure, ?_⟩
  have hsuccess (text : String) :
      d.decorate .success c text = (request.surround .success).around text :=
    DecorationSpec.decorate_of_chain hchain c nofun
  have hfailure (text : String) :
      d.decorate .failure c text = (request.surround .failure).around text :=
    DecorationSpec.decorate_of_chain hchain c nofun
  have hscript (success failure : String) :
      d.decorate .script c (plain.frame.fill success failure)
        = (request.surround .script).around (plain.frame.fill success failure) :=
    DecorationSpec.decorate_of_chain hchain c fun _ => plain.isBlank_fill_frame success failure
  calc ConfiguredCall.script _ = compose c { plain with decoration := d } :=
        request.script_behavior d
    _ = d.decorate .script c (plain.frame.fill
          (d.decorate .success c (request.success.getD "") ++ hide)
          (d.decorate .failure c (request.failure.getD "" ++ hide))) :=
        compose_eq_fill c { plain with decoration := d }
    _ = _ := by rw [hsuccess, hfailure, hscript]

def typingWrapping : Wrapping where
  script := ⟨"go(", ")"⟩
  failure := ⟨"log();", ""⟩

def typingRequest : Request where
  callbackUrl := some "?page=1"
  success := some "refresh();"
  failure := some "alert();"
  indicator := some "busy"
  component := { element := { markupId := "query" } }
  decorations := [.wrap typingWrapping, .throttle "typing" 500, .cancelEvent]

theorem script_of_build_typing :
    let hide := ";Wicket.hideIncrementally('busy');"
    ∃ call : ConfiguredCall, typingRequest.build = .ok call ∧ ∃ frame : Frame,
      (∀ success failure : String,
        compose typingRequest.component.toComponent
            { typingRequest.undecorated with success := some success, failure := some failure }
          = frame.fill (success ++ hide) (failure ++ hide)) ∧
      call.script = "go(wicketThrottler.throttle( 'typing', 500, function() \x7b "
        ++ frame.fill ("refresh();" ++ hide) ("log();" ++ ("alert();" ++ hide))
        ++ "return !wcall;\x7d.bind(this));)" := by
  intro hide
  have hbuild : typingRequest.build = .ok
      { behavior := typingRequest.behavior (.wrap typingWrapping
          (.throttle ⟨"typing", .ofMilliseconds 500, by decide⟩ (.cancelEvent .absent))) } := rfl
  obtain ⟨frame, hframe, hscript⟩ := script_of_build hbuild
  have hhide : hideSuffix typingRequest.undecorated.effectiveIndicator = hide := by decide
  rw [hhide] at hframe hscript
  refine ⟨_, hbuild, frame, hframe, hscript.trans ?_⟩
  have hbefore : (typingRequest.surround .script).before
      = "go(wicketThrottler.throttle( 'typing', 500, function() \x7b " := by decide
  have hafter : (typingRequest.surround .script).after = "return !wcall;\x7d.bind(this));)" := by
    decide
  rw [Wrap.around, hbefore, hafter]
  rfl

end AjaxCallback
