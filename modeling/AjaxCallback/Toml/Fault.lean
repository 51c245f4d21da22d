import AjaxCallback.Text.Quoted
import AjaxCallback.Toml.Shortest

/-!
# Faults in data

The reasons for which a well-formed document does not say what is expected of it, and their wording.
-/

namespace AjaxCallback.Toml

inductive Found where
  | string (text : String)
  | integer (n : Int)
  /-- A whole number that needs more than 64 bits. -/
  | wideInteger (n : Int)
  /-- A whole number that needs more than 127 bits and its sign. -/
  | widerInteger (n : Int)
  | real (text : String)
  | boolean (b : Bool)
  | sequence
  | map
deriving DecidableEq, Repr

def Found.message : Found → String
  | string text => "string " ++ Text.quoted text
  | integer n => "integer `" ++ toString n ++ "`"
  | wideInteger n => "integer `" ++ toString n ++ "` as i128"
  | widerInteger n => "integer `" ++ toString n ++ "` as u128"
  | real text => "floating point `" ++ text ++ "`"
  | boolean b => "boolean `" ++ (if b then "true" else "false") ++ "`"
  | sequence => "sequence"
  | map => "map"

inductive Fault where
  | unknownField (name : String) (known : List String)
  | missingField (name : String)
  | invalidType (found : Found) (expected : String)
  | invalidValue (found : Found) (expected : String)
  | unknownVariant (name : String) (known : List String)
  | noVariant (type : String)
  | invalidLength (length : Nat) (expected : String)
  | integerOverflow
  | realOverflow
deriving DecidableEq, Repr

namespace Fault

def code (name : String) : String := "`" ++ name ++ "`"

def choice (names : List String) : String :=
  match names with
  | [] => "there are no names"
  | [a] => "expected " ++ code a
  | [a, b] => "expected " ++ code a ++ " or " ++ code b
  | names => "expected one of " ++ String.intercalate ", " (names.map code)

def message : Fault → String
  | unknownField name known => "unknown field " ++ code name ++ ", " ++ choice known
  | missingField name => "missing field " ++ code name
  | invalidType found expected => "invalid type: " ++ found.message ++ ", expected " ++ expected
  | invalidValue found expected => "invalid value: " ++ found.message ++ ", expected " ++ expected
  | unknownVariant name known => "unknown variant " ++ code name ++ ", " ++ choice known
  | noVariant type => "data did not match any variant of untagged enum " ++ type
  | invalidLength length expected =>
    "invalid length " ++ toString length ++ ", expected " ++ expected
  | integerOverflow => "integer number overflowed"
  | realOverflow => "floating-point number overflowed"

end Fault

end AjaxCallback.Toml
