import AjaxCallback.Composition
import AjaxCallback.Text.Markup

/-!
# Behaviors

A behavior belongs to one component. It yields the script that makes its call and the contributions
to the page head that must be in place before that script can run.
-/

namespace AjaxCallback

open Text

inductive Precondition where
  /-- The call is made while the element of the component is in the document. -/
  | elementExists
  | disabled
  | script (text : String)
deriving DecidableEq, Repr

/-- Pages are always there; any other component is looked up. -/
def defaultPrecondition (component : Component) : String :=
  if component.isPage then "return true;"
  else "return " ++ Client.elementExists component.markupId ++ ";"

/-- Settings of the application that show in the page head. -/
structure Settings where
  debugMode : Bool := false
  /-- The url against which the client resolves relative callback urls. -/
  baseUrl : String := "."
deriving DecidableEq, Repr

structure Behavior where
  component : Component
  callbackUrl : String
  success : Option String := none
  failure : Option String := none
  precondition : Precondition := .elementExists
  channel : Option Channel := none
  indicator : Option String := none
  decoration : Decoration := .absent

namespace Behavior

def preconditionScript (b : Behavior) : Option String :=
  match b.precondition with
  | .elementExists => some (defaultPrecondition b.component)
  | .disabled => none
  | .script text => some text

def indicatorId (b : Behavior) : Option String := b.component.indicatorFor b.indicator

def request (b : Behavior) (partialCall : String) : CallRequest :=
  { partialCall
    success := b.success
    failure := b.failure
    precondition := b.preconditionScript
    indicatorId := b.indicatorId
    channel := b.channel
    decoration := b.decoration }

def complete (b : Behavior) (partialCall : String) : String :=
  compose b.component (b.request partialCall)

def callbackScript (b : Behavior) : String := b.complete (Client.getCall b.callbackUrl)

def clientItems (settings : Settings) : List HeadItem :=
  [.reference Client.eventReference, .reference Client.ajaxReference] ++
    (if settings.debugMode then
      [.reference Client.debugReference, .script Client.debugSwitch (some Client.debugSwitchId)]
    else []) ++
    [.script (Client.baseUrlStatement (escapeMarkup settings.baseUrl)) (some Client.baseUrlId)]

def headItems (b : Behavior) (settings : Settings) : List HeadItem :=
  clientItems settings ++ b.decoration.headItems b.component

def renderHead (b : Behavior) (settings : Settings) (head : Head) : Head :=
  head.recordAll (b.headItems settings)

end Behavior

end AjaxCallback
