import AjaxCallback.Request
import AjaxCallback.Toml.Decode

/-!
# The fields of a request

How the records of a request are read from a data tree.
-/

namespace AjaxCallback

open Toml

/-- The entries of a value that stands for a record. A date or time is a table with one entry. -/
def recordEntries? : Value → Option Entries
  | .table entries => some entries
  | .moment text => some [("$__toml_private_datetime", .string text)]
  | _ => none

/-- A record is read from its entries, or from a list of its fields in their order. -/
def record (expected : String) (ofItems : List Value → Except Fault α)
    (ofEntries : Entries → Except Fault α) : Decoder α := fun v =>
  match v, recordEntries? v with
  | .array items, _ => ofItems items
  | _, some entries => ofEntries entries
  | v, none => .error (mismatch expected v)

namespace Element

def schema : Schema :=
  [("markup-id", check string), ("page", check boolean), ("indicator", check string)]

/-- The fields that components and their ancestors have in common. -/
def ofFields (entries : Entries) : Except Fault Element := do
  return {
    markupId := ← required entries "markup-id" string
    page := ← defaulting entries "page" boolean false
    indicator := ← optional entries "indicator" string }

def ofEntries (entries : Entries) : Except Fault Element := do
  entries.forM schema.checkEntry
  ofFields entries

/-- The fields that open every list of the fields of a component; `record` says what the list stands
for. -/
def ofItems (record : String) (items : List Value) : Except Fault Element := do
  return {
    markupId := ← requiredAt record items 0 string
    page := ← defaultingAt items 1 boolean false
    indicator := some (← requiredAt record items 2 string) }

def decode : Decoder Element :=
  record "struct AncestorSpec" (ofItems "struct AncestorSpec with 3 elements") ofEntries

end Element

namespace ComponentSpec

def schema : Schema := Element.schema ++ [("ancestors", check (list Element.decode))]

def ofEntries (entries : Entries) : Except Fault ComponentSpec := do
  entries.forM schema.checkEntry
  return {
    element := ← Element.ofFields entries
    ancestors := ← defaulting entries "ancestors" (list Element.decode) [] }

def ofItems (items : List Value) : Except Fault ComponentSpec := do
  return {
    element := ← Element.ofItems "struct ComponentSpec with 4 elements" items
    ancestors := ← defaultingAt items 3 (list Element.decode) [] }

def decode : Decoder ComponentSpec := record "struct ComponentSpec" ofItems ofEntries

end ComponentSpec

/-- A precondition is a flag or a script. -/
def PreconditionSpec.decode : Decoder PreconditionSpec := fun v => do
  hold v
  match v with
  | .boolean b => return .enabled b
  | .string text => return .script text
  | _ => .error (.noVariant "PreconditionSpec")

namespace DecorationSpec

inductive Kind where
  | cancelEvent
  | throttle
  | wrap
deriving DecidableEq, Repr

namespace Kind

def names : List String := ["cancel-event-if-no-ajax", "throttle", "script"]

def decode : Decoder Kind
  | .string "cancel-event-if-no-ajax" => .ok cancelEvent
  | .string "throttle" => .ok throttle
  | .string "script" => .ok wrap
  | .string other => .error (.unknownVariant other names)
  | .integer n =>
    if -minWord ≤ n ∧ fitsWord n then
      .error (.invalidValue (.integer n) "variant index 0 <= i < 3")
    else .error (mismatch "variant identifier" (.integer n))
  | v => .error (mismatch "variant identifier" v)

end Kind

def throttleSchema : Schema := [("throttle-id", check string), ("delay-ms", check word)]

def wrapSchema : Schema :=
  [("before-script", check string), ("after-script", check string),
    ("before-success", check string), ("after-success", check string),
    ("before-failure", check string), ("after-failure", check string),
    ("header-references", check (list string))]

def throttleOfEntries (entries : Entries) : Except Fault DecorationSpec := do
  entries.forM throttleSchema.checkKnown
  return .throttle (← required entries "throttle-id" string) (← required entries "delay-ms" word)

def wrapOfEntries (entries : Entries) : Except Fault DecorationSpec := do
  let text (name : String) := defaulting entries name string ""
  entries.forM wrapSchema.checkKnown
  return .wrap {
    script := { before := ← text "before-script", after := ← text "after-script" }
    success := { before := ← text "before-success", after := ← text "after-success" }
    failure := { before := ← text "before-failure", after := ← text "after-failure" }
    references := ← defaulting entries "header-references" (list string) [] }

/-- The table is set aside while its kind is looked for. -/
def checkAside (entry : String × Value) : Except Fault Unit :=
  if entry.1 = "kind" then check Kind.decode entry.2 else hold entry.2

/-- The kind decides which entries count; all others are passed over. -/
def ofEntries (entries : Entries) : Except Fault DecorationSpec := do
  entries.forM checkAside
  match ← required entries "kind" Kind.decode with
  | .cancelEvent => return .cancelEvent
  | .throttle => throttleOfEntries entries
  | .wrap => wrapOfEntries entries

/-- The kind comes first, then the fields in their order. -/
def ofItems : List Value → Except Fault DecorationSpec
  | [] => .error (.missingField "kind")
  | kind :: items => do
    let kind ← Kind.decode kind
    items.forM hold
    match kind with
    | .cancelEvent =>
      noMoreThan 0 items
      return .cancelEvent
    | .throttle =>
      let record := "struct variant DecoratorSpec::Throttle with 2 elements"
      let id ← requiredAt record items 0 string
      let milliseconds ← requiredAt record items 1 word
      noMoreThan 2 items
      return .throttle id milliseconds
    | .wrap =>
      let text (position : Nat) := defaultingAt items position string ""
      let wrapping : Wrapping := {
        script := { before := ← text 0, after := ← text 1 }
        success := { before := ← text 2, after := ← text 3 }
        failure := { before := ← text 4, after := ← text 5 }
        references := ← defaultingAt items 6 (list string) [] }
      noMoreThan 7 items
      return .wrap wrapping

def decode : Decoder DecorationSpec :=
  record "internally tagged enum DecoratorSpec" ofItems ofEntries

end DecorationSpec

namespace Request

def schema : Schema :=
  [("callback-url", check string), ("partial-call", check string), ("success", check string),
    ("failure", check string), ("precondition", check PreconditionSpec.decode),
    ("indicator", check string), ("channel", check string),
    ("component", check ComponentSpec.decode), ("decorators", check (list DecorationSpec.decode))]

def ofEntries (entries : Entries) : Except Fault Request := do
  entries.forM schema.checkEntry
  return {
    callbackUrl := ← optional entries "callback-url" string
    partialCall := ← optional entries "partial-call" string
    success := ← optional entries "success" string
    failure := ← optional entries "failure" string
    precondition := ← defaulting entries "precondition" PreconditionSpec.decode (.enabled true)
    indicator := ← optional entries "indicator" string
    channel := ← optional entries "channel" string
    component := ← required entries "component" ComponentSpec.decode
    decorations := ← defaulting entries "decorators" (list DecorationSpec.decode) [] }

end Request

end AjaxCallback
