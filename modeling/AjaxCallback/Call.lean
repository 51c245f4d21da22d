import AjaxCallback.Client

/-!
# The positional client call

The client takes a partial call, a success and a failure handler, and then, optionally, a
precondition and the name of a channel. The last two are positional: a missing precondition keeps
its place when a channel follows.
-/

namespace AjaxCallback

/-- A lane in which the client orders concurrent calls. -/
structure Channel where
  name : String
deriving DecidableEq, Repr

inductive Slot where
  | handler (body : String)
  | guard (body : String)
  /-- Keeps the place of an argument that is not given. -/
  | reserved
  | quoted (value : String)
deriving DecidableEq, Repr

def Slot.render : Slot → String
  | handler body => ",function() \x7b " ++ body ++ "\x7d.bind(this)"
  | guard body => ", function() \x7b" ++ body ++ "\x7d.bind(this)"
  | reserved => ", null"
  | quoted value => ", '" ++ value ++ "'"

structure Call where
  partialCall : String
  onSuccess : String
  onFailure : String
  precondition : Option String := none
  channel : Option Channel := none
deriving DecidableEq, Repr

namespace Call

/-- The slot of the precondition, reserved only when a channel follows it. -/
def guardSlot (precondition : Option String) (channel : Option Channel) : List Slot :=
  match precondition, channel with
  | some body, _ => [.guard body]
  | none, some _ => [.reserved]
  | none, none => []

def channelSlot (channel : Option Channel) : List Slot :=
  (channel.map fun c => Slot.quoted c.name).toList

def slots (call : Call) : List Slot :=
  [.handler call.onSuccess, .handler call.onFailure] ++
    guardSlot call.precondition call.channel ++ channelSlot call.channel

def render (call : Call) : String :=
  "var " ++ Client.resultVariable ++ "=" ++ call.partialCall ++
    String.join (call.slots.map Slot.render) ++ ");"

end Call

end AjaxCallback
