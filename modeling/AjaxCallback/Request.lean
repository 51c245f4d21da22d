import AjaxCallback.Behavior

/-!
# Requests

A request describes one call in plain data. Building it checks what the data alone does not rule out
and yields the behavior that makes the call.
-/

namespace AjaxCallback

/-- The precondition of a request: a script, or whether the default one is wanted. -/
inductive PreconditionSpec where
  | enabled (wanted : Bool)
  | script (text : String)
deriving DecidableEq, Repr

/-- A component with its ancestors, the nearest first. -/
structure ComponentSpec where
  element : Element
  ancestors : List Element := []
deriving DecidableEq, Repr

inductive DecorationSpec where
  | cancelEvent
  | throttle (id : String) (milliseconds : Nat)
  | wrap (wrapping : Wrapping)
deriving DecidableEq, Repr

structure Request where
  callbackUrl : Option String := none
  /-- Completed in place of the GET call to the callback url. -/
  partialCall : Option String := none
  success : Option String := none
  failure : Option String := none
  precondition : PreconditionSpec := .enabled true
  indicator : Option String := none
  channel : Option String := none
  component : ComponentSpec
  /-- The primary decoration comes first. -/
  decorations : List DecorationSpec := []
deriving DecidableEq, Repr

inductive BuildError where
  | missingCall
  | throttle (error : ThrottleError)
deriving DecidableEq, Repr

def BuildError.message : BuildError → String
  | missingCall => "Either 'callback-url' or 'partial-call' must be given"
  | throttle e => e.message

/-- A behavior with the partial call that it is to complete, if not its own. -/
structure ConfiguredCall where
  behavior : Behavior
  partialCall : Option String := none

def ConfiguredCall.script (call : ConfiguredCall) : String :=
  match call.partialCall with
  | some partialCall => call.behavior.complete partialCall
  | none => call.behavior.callbackScript

def PreconditionSpec.toPrecondition : PreconditionSpec → Precondition
  | enabled true => .elementExists
  | enabled false => .disabled
  | script text => .script text

def ComponentSpec.toComponent (spec : ComponentSpec) : Component :=
  .ofLineage spec.element spec.ancestors

def DecorationSpec.link (spec : DecorationSpec) (delegate : Decoration) :
    Except BuildError Decoration :=
  match spec with
  | cancelEvent => .ok (.cancelEvent delegate)
  | throttle id milliseconds =>
    match Throttle.ofId id (.ofMilliseconds milliseconds) with
    | .ok t => .ok (.throttle t delegate)
    | .error e => .error (.throttle e)
  | wrap w => .ok (.wrap w delegate)

/-- Links the chain from its last decoration to its first. -/
def DecorationSpec.chain : List DecorationSpec → Except BuildError Decoration
  | [] => .ok .absent
  | spec :: rest => do spec.link (← chain rest)

def Request.build (request : Request) : Except BuildError ConfiguredCall :=
  if request.callbackUrl.isNone && request.partialCall.isNone then .error .missingCall
  else do
    let decoration ← DecorationSpec.chain request.decorations
    return {
      behavior :=
        { component := request.component.toComponent
          callbackUrl := request.callbackUrl.getD ""
          success := request.success
          failure := request.failure
          precondition := request.precondition.toPrecondition
          channel := request.channel.map Channel.mk
          indicator := request.indicator
          decoration }
      partialCall := request.partialCall }

end AjaxCallback
