import AjaxCallback.Behavior
import AjaxCallback.Text.Quoted

/-!
# Values shown on one line

The texts by which a value is shown in a log: the name of its kind and its fields in order. A chain
of decorations is shown by its first link, which tells only whether more follow.
-/

namespace AjaxCallback.Inspect

open Text

def record (name : String) (fields : List (String × String)) : String :=
  name ++ " \x7b " ++ String.intercalate ", " (fields.map fun (k, v) => k ++ ": " ++ v) ++ " \x7d"

def optional (inspect : α → String) : Option α → String
  | none => "None"
  | some a => "Some(" ++ inspect a ++ ")"

def list (inspect : α → String) (xs : List α) : String :=
  "[" ++ String.intercalate ", " (xs.map inspect) ++ "]"

def flag (b : Bool) : String := if b then "true" else "false"

/-- The digits after the point of `n / 10 ^ places`, with the point and without trailing zeros. -/
def fraction (places n : Nat) : String :=
  let digits := (Nat.toDigits 10 (Nat.pow 10 places + n % Nat.pow 10 places)).drop 1
  let kept := (digits.reverse.dropWhile (· == '0')).reverse
  if kept.isEmpty then "" else "." ++ String.ofList kept

def quantity (places n : Nat) (unit : String) : String :=
  toString (n / Nat.pow 10 places) ++ fraction places n ++ unit

/-- A delay in the largest unit of which it holds at least one. -/
def delay (d : Delay) : String :=
  let n := d.nanoseconds
  if 1000000000 ≤ n then quantity 9 n "s"
  else if 1000000 ≤ n then quantity 6 n "ms"
  else if 1000 ≤ n then quantity 3 n "µs"
  else quantity 0 n "ns"

def channel (c : Channel) : String := record "Channel" [("name", quoted c.name)]

def indicator (id : String) : String := "StaticIndicator(" ++ quoted id ++ ")"

def element (e : Element) (parent : String) : String :=
  record "ComponentNode"
    [("markup_id", quoted e.markupId), ("page", flag e.page),
      ("indicator", optional indicator e.indicator), ("parent", parent)]

def component : Component → String
  | .root e => element e "None"
  | .child e p => element e ("Some(" ++ component p ++ ")")

def wrap (w : Wrap) : String :=
  record "Wrap" [("before", quoted w.before), ("after", quoted w.after)]

/-- The first link of a chain; nothing is shown for one given by code or for the empty chain. -/
def decoration (d : Decoration) : Option String :=
  let more := ("has_delegate", flag d.hasDelegate)
  match d with
  | .cancelEvent _ => some (record "CancelEventIfNoAjaxDecorator" [more])
  | .throttle t _ =>
    some (record "ThrottlingDecorator"
      [("throttle_id", quoted t.id), ("throttle_delay", delay t.delay), more])
  | .wrap w _ =>
    some (record "ScriptDecorator"
      [("script", wrap w.script), ("on_success", wrap w.success), ("on_failure", wrap w.failure),
        ("header_references", list quoted w.references), more])
  | .before _ _ =>
    some ("PreprocessingDecorator \x7b has_delegate: " ++ flag d.hasDelegate ++ ", .. \x7d")
  | .after _ _ =>
    some ("PostprocessingDecorator \x7b has_delegate: " ++ flag d.hasDelegate ++ ", .. \x7d")
  | .absent | .custom _ _ => none

def chain (d : Decoration) : String :=
  record "DecoratorChain"
    [("links", toString d.links.length), ("contributors", toString d.contributors.length)]

def request (r : CallRequest) : String :=
  record "CallRequest"
    [("partial_call", quoted r.partialCall), ("success_script", optional quoted r.success),
      ("failure_script", optional quoted r.failure),
      ("precondition", optional quoted r.precondition),
      ("indicator_id", optional quoted r.indicatorId), ("channel", optional channel r.channel),
      ("has_decorator", flag !r.decoration.isAbsent)]

def precondition : Precondition → String
  | .elementExists => "Default"
  | .disabled => "Disabled"
  | .script text => "Script(" ++ quoted text ++ ")"

def behavior (b : Behavior) : String :=
  record "CallbackBehavior"
    [("component", component b.component), ("callback_url", quoted b.callbackUrl),
      ("success_script", optional quoted b.success), ("failure_script", optional quoted b.failure),
      ("precondition", precondition b.precondition), ("channel", optional channel b.channel),
      ("indicator", optional indicator b.indicator),
      ("has_decorator", flag !b.decoration.isAbsent)]

end AjaxCallback.Inspect
