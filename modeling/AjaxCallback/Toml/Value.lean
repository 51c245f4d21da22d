/-!
# Data trees

What a document says once its notation is gone: a tree of texts, numbers, flags, lists and tables.
-/

namespace AjaxCallback.Toml

/-- A decimal fraction, `digits * 10 ^ exponent` with a sign, as it was written. -/
structure Decimal where
  negative : Bool
  digits : Nat
  exponent : Int
deriving DecidableEq, Repr, Inhabited

inductive Real where
  | finite (value : Decimal)
  | infinite (negative : Bool)
  | nan
deriving DecidableEq, Repr, Inhabited

/-- A table is a list of entries. One that was read from a document has them in ascending order of
their keys, each key once. -/
inductive Value where
  | string (text : String)
  | integer (n : Int)
  /-- A whole number without digits or with other characters among them. It may stand in a document
  but has no value. -/
  | garbled
  | real (x : Real)
  | boolean (b : Bool)
  /-- A date, a time, or both. -/
  | moment (text : String)
  | array (items : List Value)
  | table (entries : List (String × Value))
deriving Inhabited

abbrev Entries := List (String × Value)

end AjaxCallback.Toml
