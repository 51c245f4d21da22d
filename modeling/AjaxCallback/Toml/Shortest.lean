import AjaxCallback.Toml.Value

/-!
# Decimal fractions as binary numbers

A decimal fraction is held as the nearest binary number with 53 significant bits and shown by the
fewest digits that still single that number out.
-/

namespace AjaxCallback.Toml

structure Binary where
  significand : Nat
  exponent : Int
deriving DecidableEq, Repr

/-- The power `base ^ e` for an exponent that is not negative, and one otherwise. -/
def powerUp (base : Nat) (e : Int) : Nat := Nat.pow base e.toNat

/-- The quotient rounded to the nearest whole number, a half to the even one. -/
def roundHalfEven (n d : Nat) : Nat :=
  let q := n / d
  let r := n % d
  if 2 * r < d then q
  else if d < 2 * r then q + 1
  else if q % 2 = 0 then q else q + 1

namespace Binary

/-- The significands have 53 bits, so that they lie between this number and twice it. -/
def minSignificand : Nat := 4503599627370496

def minExponent : Int := -1074

def maxExponent : Int := 971

/-- The number nearest to the positive fraction `n / d`, or none if it is too large. -/
def nearest? (n d : Nat) : Option Binary :=
  let low := max minExponent ((Nat.log2 n : Int) - Nat.log2 d - 53)
  let scaled (e : Int) : Nat × Nat := (n * powerUp 2 (-e), d * powerUp 2 e)
  let (a, b) := scaled low
  let e := if 2 * minSignificand ≤ a / b then low + 1 else low
  let (a, b) := scaled e
  let m := roundHalfEven a b
  let (m, e) := if m = 2 * minSignificand then (minSignificand, e + 1) else (m, e)
  if e ≤ maxExponent then some ⟨m, e⟩ else none

/-- The digits of a multiple of `10 ^ place` that rounds to this number, the nearer one of two. -/
def digitsAt? (x : Binary) (place : Int) : Option Nat :=
  let scale := powerUp 2 (x.exponent - 2) * powerUp 10 (-place)
  let step := powerUp 10 place * powerUp 2 (2 - x.exponent)
  let value := 4 * x.significand * scale
  let below := if x.significand = minSignificand ∧ minExponent < x.exponent then 1 else 2
  let low := (4 * x.significand - below) * scale
  let high := (4 * x.significand + 2) * scale
  let fits (c : Nat) : Bool :=
    if x.significand % 2 = 0 then low ≤ c * step && c * step ≤ high
    else low < c * step && c * step < high
  let c := value / step
  let nearer := if value - c * step < (c + 1) * step - value then [c, c + 1] else [c + 1, c]
  nearer.find? fits

/-- The fewest digits that single out this number, and the place of the last of them. -/
def shortest (x : Binary) : Nat × Int :=
  let places := (List.range 700).map fun (i : Nat) => (320 : Int) - (i : Int)
  (places.findSome? fun p => (x.digitsAt? p).map fun c => (c, p)).getD (0, 0)

end Binary

/-- Digits of which the last stands at `10 ^ place`, written out in full with a point. -/
def positional (digits : Nat) (place : Int) : String :=
  let ds := Nat.toDigits 10 digits
  if 0 ≤ place then String.ofList (ds ++ List.replicate place.toNat '0') ++ ".0"
  else
    let after := (-place).toNat
    let ds := List.replicate (after + 1 - ds.length) '0' ++ ds
    String.ofList (ds.take (ds.length - after)) ++ "." ++
      String.ofList (ds.drop (ds.length - after))

def Decimal.text? (x : Decimal) : Option String :=
  let sign := if x.negative then "-" else ""
  let size := (Nat.toDigits 10 x.digits).length + x.exponent
  if x.digits = 0 ∨ size < -330 then some (sign ++ "0.0")
  else if 320 < size then none
  else do
    let b ← Binary.nearest? (x.digits * powerUp 10 x.exponent) (powerUp 10 (-x.exponent))
    if b.significand = 0 then return sign ++ "0.0"
    let (digits, place) := b.shortest
    return sign ++ positional digits place

def Real.text? : Real → Option String
  | finite x => x.text?
  | infinite negative => some (if negative then "-inf" else "inf")
  | nan => some "NaN"

end AjaxCallback.Toml
