import AjaxCallback.Call
import AjaxCallback.Decoration

/-!
# Composing a callback script

The order of the steps shows in the result. The success handler is decorated before the statement
that hides the indicator is appended, the failure handler after it. With an indicator the
precondition is written three times: once in the test before the indicator is shown, and twice in
the guard, which hides the indicator again when the precondition no longer holds. The decoration of
the whole script sees everything else.
-/

namespace AjaxCallback

open Text

structure CallRequest where
  /-- A call that still lacks its trailing arguments. -/
  partialCall : String
  success : Option String := none
  failure : Option String := none
  /-- A script that ends in a return statement. -/
  precondition : Option String := none
  indicatorId : Option String := none
  channel : Option Channel := none
  decoration : Decoration := .absent

namespace CallRequest

/-- The indicator of the call; a blank id counts as none. -/
def effectiveIndicator (request : CallRequest) : Option String :=
  request.indicatorId.filter fun id => !isBlank id

end CallRequest

/-- What a handler ends with when there is an indicator. -/
def hideSuffix : Option String → String
  | none => ""
  | some id => ";" ++ Client.hideIndicator id

def guardBody (indicator : Option String) (precondition : String) : String :=
  match indicator with
  | none => precondition
  | some id =>
    "if (!function() \x7b" ++ precondition ++ "\x7d.bind(this)()) \x7b" ++
      Client.hideIndicator id ++ "\x7d" ++ precondition

def showCondition : Option String → String
  | none => "true"
  | some precondition => "function()\x7b" ++ precondition ++ "\x7d.bind(this)()"

def showStatement (indicator precondition : Option String) : String :=
  match indicator with
  | none => ""
  | some id =>
    "if (" ++ showCondition precondition ++ ") \x7b " ++ Client.showIndicator id ++ "\x7d"

namespace CallRequest

/-- The call with its handlers decorated and everything said about the indicator. -/
def call (request : CallRequest) (component : Component) : Call :=
  let indicator := request.effectiveIndicator
  let decorate (hook : Hook) (text : String) := request.decoration.decorate hook component text
  { partialCall := request.partialCall
    onSuccess := decorate .success (request.success.getD "") ++ hideSuffix indicator
    onFailure := decorate .failure (request.failure.getD "" ++ hideSuffix indicator)
    precondition := request.precondition.map (guardBody indicator)
    channel := request.channel }

/-- The script before it is decorated as a whole. -/
def statement (request : CallRequest) (component : Component) : String :=
  showStatement request.effectiveIndicator request.precondition ++ (request.call component).render

end CallRequest

def compose (component : Component) (request : CallRequest) : String :=
  request.decoration.decorate .script component (request.statement component)

end AjaxCallback
