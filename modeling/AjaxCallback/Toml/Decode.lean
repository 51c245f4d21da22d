import AjaxCallback.Toml.Fault

/-!
# Reading values of known types

A decoder turns a value into what is expected of it or names the first fault. Records are tables, of
which the entries are checked in their order before missing fields are looked for, or lists of their
fields in the declared order.
-/

namespace AjaxCallback.Toml

abbrev Decoder (α : Type) := Value → Except Fault α

def minWord : Int := -9223372036854775808

def maxWord : Int := 18446744073709551615

/-- Whole numbers fit when they are signed or unsigned ones of 64 bits. -/
def fitsWord (n : Int) : Bool := minWord ≤ n && n ≤ maxWord

def minWide : Int := -170141183460469231731687303715884105728

def maxWide : Int := 170141183460469231731687303715884105727

def maxWider : Int := 340282366920938463463374607431768211455

/-- The fault of a value that is not of the expected type. -/
def mismatch (expected : String) : Value → Fault
  | .string text => .invalidType (.string text) expected
  | .integer n =>
    if fitsWord n then .invalidType (.integer n) expected
    else if minWide ≤ n ∧ n ≤ maxWide then .invalidType (.wideInteger n) expected
    else if 0 ≤ n ∧ n ≤ maxWider then .invalidType (.widerInteger n) expected
    else .integerOverflow
  | .garbled => .integerOverflow
  | .real x =>
    match x.text? with
    | some text => .invalidType (.real text) expected
    | none => .realOverflow
  | .boolean b => .invalidType (.boolean b) expected
  | .array _ => .invalidType .sequence expected
  | .moment _ | .table _ => .invalidType .map expected

def string : Decoder String
  | .string text => .ok text
  | v => .error (mismatch "a string" v)

def boolean : Decoder Bool
  | .boolean b => .ok b
  | v => .error (mismatch "a boolean" v)

def list (item : Decoder α) : Decoder (List α)
  | .array items => items.mapM item
  | v => .error (mismatch "a sequence" v)

def word : Decoder Nat
  | .integer n =>
    if n < 0 ∧ fitsWord n then .error (.invalidValue (.integer n) "u64")
    else if fitsWord n then .ok n.toNat
    else .error (mismatch "u64" (.integer n))
  | v => .error (mismatch "u64" v)

mutual

/-- Checks that a value can be set aside before its type is known: every number in it is used, so it
has to be one that can be held. -/
def hold : Value → Except Fault Unit
  | .integer n => if fitsWord n then .ok () else .error (mismatch "any value" (.integer n))
  | .garbled => .error .integerOverflow
  | .real x => if x.text?.isSome then .ok () else .error .realOverflow
  | .array items => holdItems items
  | .table entries => holdEntries entries
  | .string _ | .boolean _ | .moment _ => .ok ()

def holdItems : List Value → Except Fault Unit
  | [] => .ok ()
  | v :: rest => do hold v; holdItems rest

def holdEntries : List (String × Value) → Except Fault Unit
  | [] => .ok ()
  | (_, v) :: rest => do hold v; holdEntries rest

end

/-- A decoder of which only the verdict matters. -/
def check (decode : Decoder α) (v : Value) : Except Fault Unit := do
  let _ ← decode v

/-- The names of the fields of a record, in declared order, with the checks of their values. -/
abbrev Schema := List (String × (Value → Except Fault Unit))

namespace Schema

def names (schema : Schema) : List String := schema.map Prod.fst

def checkEntry (schema : Schema) (entry : String × Value) : Except Fault Unit :=
  match schema.lookup entry.1 with
  | some check => check entry.2
  | none => .error (.unknownField entry.1 schema.names)

/-- Checks one entry of a record that may have other fields. -/
def checkKnown (schema : Schema) (entry : String × Value) : Except Fault Unit :=
  match schema.lookup entry.1 with
  | some check => check entry.2
  | none => .ok ()

end Schema

def optional (entries : Entries) (name : String) (decode : Decoder α) : Except Fault (Option α) :=
  match entries.lookup name with
  | none => .ok none
  | some v => (decode v).map some

/-- A field with a value for when it is left out. -/
def defaulting (entries : Entries) (name : String) (decode : Decoder α) (default : α) :
    Except Fault α :=
  (optional entries name decode).map (·.getD default)

def required (entries : Entries) (name : String) (decode : Decoder α) : Except Fault α :=
  match entries.lookup name with
  | none => .error (.missingField name)
  | some v => decode v

/-- A field at a position that may lie behind the end of the list. -/
def optionalAt (items : List Value) (position : Nat) (decode : Decoder α) :
    Except Fault (Option α) :=
  match items[position]? with
  | none => .ok none
  | some v => (decode v).map some

def defaultingAt (items : List Value) (position : Nat) (decode : Decoder α) (default : α) :
    Except Fault α :=
  (optionalAt items position decode).map (·.getD default)

/-- A field that must be there; `record` says what the list stands for. -/
def requiredAt (record : String) (items : List Value) (position : Nat) (decode : Decoder α) :
    Except Fault α :=
  match items[position]? with
  | none => .error (.invalidLength position record)
  | some v => decode v

def noMoreThan (count : Nat) (items : List Value) : Except Fault Unit :=
  if items.length ≤ count then .ok ()
  else .error (.invalidLength items.length
    (toString count ++ (if count = 1 then " element" else " elements") ++ " in sequence"))

end AjaxCallback.Toml
