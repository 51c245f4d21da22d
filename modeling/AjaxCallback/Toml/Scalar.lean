import AjaxCallback.Reading
import AjaxCallback.Toml.Value

/-!
# Unquoted values

Flags, whole numbers, decimal fractions, dates and times.
-/

namespace AjaxCallback.Toml

/-- Drops the underscores between digits. Each must stand between two digits. -/
def ungroup (isDigit : Char → Bool) : List Char → Option (List Char)
  | [] => none
  | [c] => if isDigit c then some [c] else none
  | c :: '_' :: rest => if isDigit c then (ungroup isDigit rest).map (c :: ·) else none
  | c :: rest => if isDigit c then (ungroup isDigit rest).map (c :: ·) else none

def digitValue (c : Char) : Nat :=
  if c ≤ '9' then c.toNat - '0'.toNat else c.toLower.toNat - 'a'.toNat + 10

def numberOf (base : Nat) (digits : List Char) : Nat :=
  digits.foldl (fun n c => base * n + digitValue c) 0

def radixNumber? (base : Nat) (isDigit : Char → Bool) (text : List Char) : Option Nat :=
  (ungroup isDigit text).map (numberOf base)

/-- Decimal digits, without a leading zero unless it is the only digit. -/
def decimalDigits? (text : List Char) : Option (List Char) := do
  let digits ← ungroup Char.isDigit text
  match digits with
  | '0' :: _ :: _ => none
  | _ => some digits

/-- Splits off a sign; `true` stands for a minus. -/
def splitSign : List Char → Bool × List Char
  | '-' :: rest => (true, rest)
  | '+' :: rest => (false, rest)
  | rest => (false, rest)

def signed (negative : Bool) (n : Nat) : Int := if negative then -(n : Int) else n

def isHexDigit (c : Char) : Bool := c.isDigit || ('a' ≤ c.toLower && c.toLower ≤ 'f')

def integer? : List Char → Option Int
  | '0' :: 'x' :: rest =>
    (radixNumber? 16 isHexDigit rest).map (↑·)
  | '0' :: 'o' :: rest => (radixNumber? 8 (fun c => '0' ≤ c && c ≤ '7') rest).map (↑·)
  | '0' :: 'b' :: rest => (radixNumber? 2 (fun c => c == '0' || c == '1') rest).map (↑·)
  | text =>
    let (negative, rest) := splitSign text
    (decimalDigits? rest).map fun digits => signed negative (numberOf 10 digits)

def isGrouped : List Char → Bool
  | a :: '_' :: b :: rest => isHexDigit a && isHexDigit b && isGrouped (b :: rest)
  | c :: rest => c != '_' && isGrouped rest
  | [] => true

/-- Whether a text is taken for a whole number by its front alone: the mark of a base without
digits, or decimal digits, no zero first, and an underscore after them. In the latter case only the
places of the underscores matter from then on. -/
def isGarbled (text : List Char) : Bool :=
  let digits := (splitSign text).2
  ["0x", "0o", "0b"].contains (String.ofList text) ||
    (digits.head?.any (fun c => '1' ≤ c && c ≤ '9') &&
      (digits.dropWhile Char.isDigit).head? == some '_' &&
      !digits.any (['.', 'e', 'E', ' '].contains ·) && isGrouped digits)

/-- The exponent after the letter; it may have leading zeros. -/
def exponent? (text : List Char) : Option Int :=
  let (negative, rest) := splitSign text
  (ungroup Char.isDigit rest).map fun digits => signed negative (numberOf 10 digits)

def splitAtFirst (p : Char → Bool) (text : List Char) : List Char × Option (List Char) :=
  match text.dropWhile (!p ·) with
  | [] => (text, none)
  | _ :: rest => (text.takeWhile (!p ·), some rest)

def decimal? (text : List Char) : Option Decimal := do
  let (negative, text) := splitSign text
  let (mantissa, exponentText) := splitAtFirst (fun c => c == 'e' || c == 'E') text
  let (wholeText, fractionText) := splitAtFirst (· == '.') mantissa
  if exponentText.isNone && fractionText.isNone then none
  else
    let whole ← decimalDigits? wholeText
    let fraction ← match fractionText with
      | none => some []
      | some text => ungroup Char.isDigit text
    let exponent ← match exponentText with
      | none => some 0
      | some text => exponent? text
    return ⟨negative, numberOf 10 (whole ++ fraction), exponent - fraction.length⟩

/-- Infinity and the value that is no number, each with an optional sign. -/
def special? (text : List Char) : Option Real :=
  let (negative, rest) := splitSign text
  match String.ofList rest with
  | "inf" => some (.infinite negative)
  | "nan" => some .nan
  | _ => none

namespace Moment

def digits (width : Nat) : Reader Char Nat := fun input =>
  let front := input.take width
  if front.length = width ∧ front.all Char.isDigit then
    some (numberOf 10 front, input.drop width)
  else none

def isLeapYear (year : Nat) : Bool := year % 4 == 0 && (year % 100 != 0 || year % 400 == 0)

def daysInMonth (year month : Nat) : Nat :=
  if month == 2 then (if isLeapYear year then 29 else 28)
  else if [4, 6, 9, 11].contains month then 30
  else 31

def skip (c : Char) : List Char → Option (List Char)
  | d :: rest => if d = c then some rest else none
  | [] => none

def date (input : List Char) : Option (List Char) := do
  let (year, rest) ← digits 4 input
  let (month, rest) ← digits 2 (← skip '-' rest)
  let (day, rest) ← digits 2 (← skip '-' rest)
  if 1 ≤ month ∧ month ≤ 12 ∧ 1 ≤ day ∧ day ≤ daysInMonth year month then some rest else none

/-- A fraction of a second, of any length, if there is one. -/
def fraction (input : List Char) : Option (List Char) :=
  match input with
  | '.' :: c :: rest => if c.isDigit then some (rest.dropWhile Char.isDigit) else none
  | '.' :: [] => none
  | rest => some rest

/-- A time of day; the seconds may be left out, and a minute may have a leap second. -/
def time (input : List Char) : Option (List Char) := do
  let (hour, rest) ← digits 2 input
  let (minute, rest) ← digits 2 (← skip ':' rest)
  if hour ≤ 23 ∧ minute ≤ 59 then
    match rest with
    | ':' :: rest => do
      let (second, rest) ← digits 2 rest
      if second ≤ 60 then fraction rest else none
    | rest => some rest
  else none

/-- What may follow a time that belongs to a date: the distance from universal time. -/
def isOffset (input : List Char) : Bool :=
  let distance (rest : List Char) : Bool :=
    (do
      let (hours, rest) ← digits 2 rest
      let (minutes, rest) ← digits 2 (← skip ':' rest)
      return hours ≤ 23 && minutes ≤ 59 && rest.isEmpty).getD false
  match input with
  | [] => true
  | ['Z'] => true
  | ['z'] => true
  | '+' :: rest => distance rest
  | '-' :: rest => distance rest
  | _ => false

/-- Whether a text is a day, a time of day, or a day with a time of day and perhaps an offset. -/
def isMoment (input : List Char) : Bool :=
  match date input with
  | some [] => true
  | some (c :: rest) =>
    (c == 'T' || c == 't' || c == ' ') && (time rest).elim false isOffset
  | none => time input == some []

end Moment

def scalar? (text : String) : Option Value :=
  let cs := text.toList
  if text = "true" then some (.boolean true)
  else if text = "false" then some (.boolean false)
  else if Moment.isMoment cs then some (.moment text)
  else
    ((integer? cs).map Value.integer)
      |>.or ((decimal? cs).map fun d => .real (.finite d))
      |>.or ((special? cs).map Value.real)
      |>.or (if isGarbled cs then some .garbled else none)

end AjaxCallback.Toml
