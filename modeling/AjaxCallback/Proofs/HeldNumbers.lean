import Mathlib.Tactic.NormNum
import Mathlib.Tactic.Ring
import AjaxCallback.Proofs.TypedEntries

/-!
# Which numbers can be held

A fraction rounds beyond the largest binary number when it lies half a step above it or further out.
All others have a nearest binary number and can be shown. A value can be set aside when each number
in it, however deep, can be held.
-/

namespace AjaxCallback.Toml

theorem powerUp_natCast (base k : Nat) : powerUp base k = base ^ k := rfl

theorem powerUp_neg_natCast (base k : Nat) : powerUp base (-(k : Int)) = 1 := by
  rw [powerUp, Int.toNat_of_nonpos (by omega), Nat.pow_eq, pow_zero]

theorem powerUp_pos {base : Nat} (h : 0 < base) (e : Int) : 0 < powerUp base e := Nat.pow_pos h

namespace Binary

/-- Half the distance of the largest binary numbers, which have the exponent 971. -/
def halfStep : Nat := 2 ^ 970

/-- Half a step above the largest binary number. -/
def overflow : Nat := 2 ^ 1024 - 2 ^ 970

theorem overflow_eq : overflow = (2 ^ 54 - 1) * halfStep := by
  rw [overflow, halfStep, Nat.sub_mul, one_mul, ← pow_add]

theorem halfStep_pos : 0 < halfStep := pow_pos (by decide) 970

theorem overflow_pos : 0 < overflow := by
  rw [overflow_eq]
  exact Nat.mul_pos (by decide) halfStep_pos

theorem two_pow_add_eq (a b : Nat) : 2 ^ (a + 970 + b) = 2 ^ a * (halfStep * 2 ^ b) := by
  rw [pow_add, pow_add, Nat.mul_assoc, halfStep]

theorem roundHalfEven_le (a b : Nat) : roundHalfEven a b ≤ a / b + 1 := by
  unfold roundHalfEven
  simp only []
  split
  · omega
  · split
    · omega
    · split <;> omega

/-- The quotient rounds to a whole number with an even last bit when it is at most half below it. -/
theorem roundHalfEven_eq_iff {a b : Nat} (hb : 0 < b) (hlt : a < 2 ^ 53 * b) :
    roundHalfEven a b = 2 ^ 53 ↔ (2 ^ 54 - 1) * b ≤ 2 * a := by
  have hquotient : a / b < 2 ^ 53 := (Nat.div_lt_iff_lt_mul hb).mpr hlt
  have hdivision := Nat.div_add_mod a b
  have hrest := Nat.mod_lt a hb
  by_cases hlast : a / b = 2 ^ 53 - 1
  · unfold roundHalfEven
    simp only [hlast]
    rw [hlast] at hdivision
    split
    · omega
    · have hodd : ¬(2 ^ 53 - 1) % 2 = 0 := by decide
      rw [if_neg hodd]
      split <;> omega
  · have hrounded := roundHalfEven_le a b
    have hproduct : b * (a / b + 2) ≤ b * 2 ^ 53 := Nat.mul_le_mul_left b (by omega)
    rw [Nat.mul_add] at hproduct
    omega

def startExponent (n d : Nat) : Int := max minExponent ((Nat.log2 n : Int) - Nat.log2 d - 53)

/-- The exponent at which the quotient has at most 53 bits. -/
def fittingExponent (n d : Nat) : Int :=
  let low := startExponent n d
  if 2 * minSignificand ≤ n * powerUp 2 (-low) / (d * powerUp 2 low) then low + 1 else low

def roundedAt (n d : Nat) (e : Int) : Nat := roundHalfEven (n * powerUp 2 (-e)) (d * powerUp 2 e)

theorem nearest?_eq (n d : Nat) :
    nearest? n d =
      let e := fittingExponent n d
      let m := roundedAt n d e
      let (m, e) := if m = 2 * minSignificand then (minSignificand, e + 1) else (m, e)
      if e ≤ maxExponent then some ⟨m, e⟩ else none := rfl

theorem nearest?_eq_none_iff_lt {n d : Nat} {e : Int} (he : fittingExponent n d = e) :
    nearest? n d = none ↔ 971 < if roundedAt n d e = 2 ^ 53 then e + 1 else e := by
  have hlimit : 2 * minSignificand = 2 ^ 53 := by norm_num [minSignificand]
  rw [nearest?_eq]
  simp only [he, hlimit]
  by_cases hcarry : roundedAt n d e = 2 ^ 53
  · simp only [if_pos hcarry, maxExponent]
    split <;> simp <;> omega
  · simp only [if_neg hcarry, maxExponent]
    split <;> simp <;> omega

variable {n d : Nat}

theorem fittingExponent_natCast {k : Nat} (hstart : startExponent n d = k) :
    fittingExponent n d = if 2 ^ 53 ≤ n / (d * 2 ^ k) then (k : Int) + 1 else k := by
  have hlimit : 2 * minSignificand = 2 ^ 53 := by norm_num [minSignificand]
  simp only [fittingExponent, hstart, powerUp_natCast, powerUp_neg_natCast, hlimit, Nat.mul_one]

theorem roundedAt_natCast (k : Nat) : roundedAt n d k = roundHalfEven n (d * 2 ^ k) := by
  rw [roundedAt, powerUp_natCast, powerUp_neg_natCast, Nat.mul_one]

/-- At the largest exponent the significand is carried over exactly from the bound on. -/
theorem roundedAt_maxExponent_iff (hd : d ≠ 0) (hlt : n < 2 ^ 54 * (halfStep * d)) :
    roundedAt n d (971 : Nat) = 2 ^ 53 ↔ overflow * d ≤ n := by
  have hunit : d * 2 ^ 971 = 2 * (halfStep * d) := by
    rw [pow_succ, ← halfStep]
    ring
  have hpos : 0 < halfStep * d := Nat.mul_pos halfStep_pos (Nat.pos_of_ne_zero hd)
  rw [roundedAt_natCast, hunit, overflow_eq, Nat.mul_assoc]
  generalize halfStep * d = unit at *
  rw [roundHalfEven_eq_iff (by omega) (by omega)]
  omega

theorem nearest?_eq_none_iff_of_maxExponent (hd : d ≠ 0) (hlt : n < 2 ^ 54 * (halfStep * d))
    (he : fittingExponent n d = (971 : Nat)) : nearest? n d = none ↔ overflow * d ≤ n := by
  rw [nearest?_eq_none_iff_lt he, ← roundedAt_maxExponent_iff hd hlt]
  split
  · simp_all
  · simp_all

theorem nearest?_ne_none_of_le (he : fittingExponent n d ≤ 970) : nearest? n d ≠ none := by
  rw [Ne, nearest?_eq_none_iff_lt rfl]
  split <;> omega

theorem nearest?_eq_none_of_lt (he : 971 < fittingExponent n d) : nearest? n d = none := by
  rw [nearest?_eq_none_iff_lt rfl]
  split <;> omega

theorem startExponent_eq {k : Nat} (h : n.log2 = d.log2 + 53 + k) : startExponent n d = k := by
  rw [startExponent, h, minExponent]
  omega

theorem fittingExponent_le (n d : Nat) : fittingExponent n d ≤ startExponent n d + 1 := by
  rw [fittingExponent]
  split <;> omega

theorem fittingExponent_of_log2_eq {k : Nat} (hd : d ≠ 0) (hk : n.log2 = d.log2 + 1023 + k) :
    fittingExponent n d =
      if 2 ^ 53 * (2 ^ k * (halfStep * d)) ≤ n then ((970 + k : Nat) : Int) + 1
      else (970 + k : Nat) := by
  have hstart : startExponent n d = (970 + k : Nat) := startExponent_eq (by omega)
  have hunit : d * 2 ^ (970 + k) = 2 ^ k * (halfStep * d) := by
    rw [pow_add, ← halfStep]
    ring
  have hpos : 0 < 2 ^ k * (halfStep * d) :=
    Nat.mul_pos (Nat.two_pow_pos k) (Nat.mul_pos halfStep_pos (Nat.pos_of_ne_zero hd))
  rw [fittingExponent_natCast hstart, hunit]
  simp only [Nat.le_div_iff_mul_le hpos]

/-- The number of bits decides, unless the exponent is one of the two below the bound. There the
significand has to be looked at. -/
theorem nearest?_eq_none_iff (hn : n ≠ 0) (hd : d ≠ 0) :
    nearest? n d = none ↔ overflow * d ≤ n := by
  have hd_low : halfStep * 2 ^ d.log2 ≤ halfStep * d := Nat.mul_le_mul_left _ (Nat.log2_self_le hd)
  have hd_high : halfStep * d < 2 * (halfStep * 2 ^ d.log2) := by
    rw [Nat.mul_left_comm, ← Nat.pow_succ']
    exact Nat.mul_lt_mul_of_pos_left Nat.lt_log2_self halfStep_pos
  have hn_low {a : Nat} (h : a + 970 + d.log2 ≤ n.log2) : 2 ^ a * (halfStep * 2 ^ d.log2) ≤ n := by
    rw [← two_pow_add_eq]
    exact (Nat.pow_le_pow_right (by decide) h).trans (Nat.log2_self_le hn)
  have hn_high {a : Nat} (h : n.log2 < a + 970 + d.log2) : n < 2 ^ a * (halfStep * 2 ^ d.log2) := by
    rw [← two_pow_add_eq]
    exact (Nat.log2_lt hn).mp h
  have hbound : overflow * d = (2 ^ 54 - 1) * (halfStep * d) := by rw [overflow_eq, Nat.mul_assoc]
  rcases Nat.lt_or_ge n.log2 (d.log2 + 1023) with hsmall | hlarge
  · have hstart : startExponent n d ≤ 969 := by
      rw [startExponent, minExponent]
      omega
    have hle := fittingExponent_le n d
    have hn_lt := @hn_high 53 (by omega)
    have hfinite := nearest?_ne_none_of_le (by omega : fittingExponent n d ≤ 970)
    refine iff_of_false hfinite ?_
    omega
  · obtain ⟨k, hk⟩ := Nat.exists_eq_add_of_le hlarge
    have hfitting := fittingExponent_of_log2_eq hd hk
    -- For `k` below two the quotient may still round to a significand that fits.
    obtain rfl | rfl | hk2 : k = 0 ∨ k = 1 ∨ 2 ≤ k := by omega
    · have hn_lt := @hn_high 54 (by omega)
      rw [pow_zero, one_mul] at hfitting
      by_cases hcarry : 2 ^ 53 * (halfStep * d) ≤ n
      · rw [if_pos hcarry] at hfitting
        exact nearest?_eq_none_iff_of_maxExponent hd (by omega) hfitting
      · rw [if_neg hcarry] at hfitting
        refine iff_of_false (nearest?_ne_none_of_le (by omega)) ?_
        omega
    · have hn_le := @hn_low 54 (by omega)
      have hn_lt := @hn_high 55 (by omega)
      rw [pow_one] at hfitting
      by_cases hcarry : 2 ^ 53 * (2 * (halfStep * d)) ≤ n
      · rw [if_pos hcarry] at hfitting
        refine iff_of_true (nearest?_eq_none_of_lt (by omega)) ?_
        omega
      · rw [if_neg hcarry] at hfitting
        exact nearest?_eq_none_iff_of_maxExponent hd (by omega) hfitting
    · have hn_le := @hn_low 55 (by omega)
      refine iff_of_true (nearest?_eq_none_of_lt ?_) (by omega)
      rw [hfitting]
      split <;> omega

end Binary

namespace Decimal

/-- The size of the fraction lies below half a step above the largest binary number. -/
def InRange (x : Decimal) : Prop :=
  x.digits * powerUp 10 x.exponent < Binary.overflow * powerUp 10 (-x.exponent)

instance (x : Decimal) : Decidable x.InRange := inferInstanceAs (Decidable (_ < _))

variable {x : Decimal}

theorem overflow_lt_ten_pow : Binary.overflow < 10 ^ 320 := by
  have hhalfStep : Binary.halfStep ≤ (10 ^ 4) ^ 75 := by
    calc
      Binary.halfStep ≤ (2 ^ 13) ^ 75 := by
        rw [Binary.halfStep, ← pow_mul]
        exact pow_le_pow_right₀ (by decide) (by decide)
      _ ≤ (10 ^ 4) ^ 75 := Nat.pow_le_pow_left (by decide) 75
  calc
    Binary.overflow = (2 ^ 54 - 1) * Binary.halfStep := Binary.overflow_eq
    _ < 10 ^ 20 * Binary.halfStep := Nat.mul_lt_mul_of_pos_right (by decide) Binary.halfStep_pos
    _ ≤ 10 ^ 20 * (10 ^ 4) ^ 75 := Nat.mul_le_mul_left _ hhalfStep
    _ = 10 ^ 320 := by rw [← pow_mul, ← pow_add]

theorem digits_lt (x : Decimal) : x.digits < 10 ^ (Nat.toDigits 10 x.digits).length :=
  (Nat.length_toDigits_le_iff (by decide) Nat.length_toDigits_pos).mp le_rfl

theorem le_digits (h : x.digits ≠ 0) :
    10 ^ ((Nat.toDigits 10 x.digits).length - 1) ≤ x.digits := by
  by_cases hone : (Nat.toDigits 10 x.digits).length = 1
  · rw [hone]
    exact Nat.one_le_iff_ne_zero.mpr h
  · have hlength : 0 < (Nat.toDigits 10 x.digits).length := Nat.length_toDigits_pos
    rw [← Nat.not_lt, ← Nat.length_toDigits_le_iff (by decide) (by omega)]
    omega

theorem inRange_of_size_lt (h : (Nat.toDigits 10 x.digits).length + x.exponent < -330) :
    x.InRange := by
  obtain ⟨k, hk | hk⟩ := Int.eq_nat_or_neg x.exponent
  · omega
  · rw [InRange, hk, neg_neg, powerUp_neg_natCast, powerUp_natCast, mul_one]
    calc
      x.digits < 10 ^ (Nat.toDigits 10 x.digits).length := x.digits_lt
      _ ≤ 10 ^ k := Nat.pow_le_pow_right (by decide) (by omega)
      _ ≤ Binary.overflow * 10 ^ k := Nat.le_mul_of_pos_left _ Binary.overflow_pos

theorem not_inRange_of_lt_size (hdigits : x.digits ≠ 0)
    (h : 320 < (Nat.toDigits 10 x.digits).length + x.exponent) : ¬x.InRange := by
  have hlow := le_digits hdigits
  rw [InRange, Nat.not_lt]
  obtain ⟨k, hk | hk⟩ := Int.eq_nat_or_neg x.exponent
  · rw [hk, powerUp_neg_natCast, powerUp_natCast, mul_one]
    calc
      Binary.overflow ≤ 10 ^ 320 := overflow_lt_ten_pow.le
      _ ≤ 10 ^ ((Nat.toDigits 10 x.digits).length - 1 + k) :=
        pow_le_pow_right₀ (by decide) (by omega)
      _ = 10 ^ ((Nat.toDigits 10 x.digits).length - 1) * 10 ^ k := pow_add ..
      _ ≤ x.digits * 10 ^ k := Nat.mul_le_mul_right _ hlow
  · rw [hk, neg_neg, powerUp_neg_natCast, powerUp_natCast, mul_one]
    calc
      Binary.overflow * 10 ^ k ≤ 10 ^ 320 * 10 ^ k := Nat.mul_le_mul_right _ overflow_lt_ten_pow.le
      _ = 10 ^ (320 + k) := (pow_add ..).symm
      _ ≤ 10 ^ ((Nat.toDigits 10 x.digits).length - 1) :=
        Nat.pow_le_pow_right (by decide) (by omega)
      _ ≤ x.digits := hlow

theorem isSome_text?_iff : x.text?.isSome ↔ x.InRange := by
  rw [text?]
  simp only []
  -- The answers that the number of digits alone decides agree with the bound.
  split
  case isTrue hsmall =>
    refine iff_of_true rfl ?_
    rcases hsmall with hdigits | hsize
    · rw [InRange, hdigits, zero_mul]
      exact Nat.mul_pos Binary.overflow_pos (powerUp_pos (by decide) _)
    · exact inRange_of_size_lt hsize
  case isFalse hsmall =>
    rw [not_or] at hsmall
    split
    case isTrue hsize => exact iff_of_false nofun (not_inRange_of_lt_size hsmall.1 hsize)
    case isFalse hsize =>
      have hn : x.digits * powerUp 10 x.exponent ≠ 0 :=
        Nat.mul_ne_zero hsmall.1 (powerUp_pos (by decide) _).ne'
      have hd : powerUp 10 (-x.exponent) ≠ 0 := (powerUp_pos (by decide) _).ne'
      have hnearest := Binary.nearest?_eq_none_iff hn hd
      rw [InRange, ← Nat.not_le, ← hnearest]
      cases Binary.nearest? (x.digits * powerUp 10 x.exponent) (powerUp 10 (-x.exponent)) with
      | none => simp
      | some b =>
          simp
          split <;> simp

example : (⟨false, 17976931348623158, 292⟩ : Decimal).InRange ∧
    ¬(⟨false, 18, 307⟩ : Decimal).InRange := by decide +kernel

end Decimal

/-! ### Values set aside -/

namespace Value

mutual

/-- The value and all values in it. -/
def parts : Value → List Value
  | .array items => .array items :: partsOfItems items
  | .table entries => .table entries :: partsOfEntries entries
  | v => [v]

def partsOfItems : List Value → List Value
  | [] => []
  | v :: rest => parts v ++ partsOfItems rest

def partsOfEntries : List (String × Value) → List Value
  | [] => []
  | (_, v) :: rest => parts v ++ partsOfEntries rest

end

/-- If the value is a number, it is one that can be held. -/
def NumberFits : Value → Prop
  | .integer n => -9223372036854775808 ≤ n ∧ n ≤ 18446744073709551615
  | .garbled => False
  | .real (.finite x) => x.InRange
  | _ => True

def Holdable (v : Value) : Prop := ∀ part ∈ v.parts, part.NumberFits

end Value

open Value

theorem Real.isSome_text?_iff {x : Real} : x.text?.isSome ↔ (Value.real x).NumberFits := by
  cases x with
  | finite x => exact Decimal.isSome_text?_iff
  | infinite negative => exact iff_of_true rfl trivial
  | nan => exact iff_of_true rfl trivial

mutual

theorem hold_eq_ok_iff : (v : Value) → (hold v = .ok () ↔ v.Holdable)
  | .integer n => by simp [hold, fitsWord_iff, Holdable, parts, NumberFits]
  | .garbled => by simp [hold, Holdable, parts, NumberFits]
  | .real x => by simp [hold, Holdable, parts, Real.isSome_text?_iff]
  | .string _ => by simp [hold, Holdable, parts, NumberFits]
  | .boolean _ => by simp [hold, Holdable, parts, NumberFits]
  | .moment _ => by simp [hold, Holdable, parts, NumberFits]
  | .array items => by
      rw [hold, holdItems_eq_ok_iff, Holdable, parts, List.forall_mem_cons]
      exact (and_iff_right trivial).symm
  | .table entries => by
      rw [hold, holdEntries_eq_ok_iff, Holdable, parts, List.forall_mem_cons]
      exact (and_iff_right trivial).symm

theorem holdItems_eq_ok_iff : (items : List Value) →
    (holdItems items = .ok () ↔ ∀ part ∈ partsOfItems items, part.NumberFits)
  | [] => by simp [holdItems, partsOfItems]
  | v :: rest => by
      rw [holdItems, check_bind_eq_ok_iff, hold_eq_ok_iff v, holdItems_eq_ok_iff rest, partsOfItems,
        List.forall_mem_append, Holdable]

theorem holdEntries_eq_ok_iff : (entries : Entries) →
    (holdEntries entries = .ok () ↔ ∀ part ∈ partsOfEntries entries, part.NumberFits)
  | [] => by simp [holdEntries, partsOfEntries]
  | (_, v) :: rest => by
      rw [holdEntries, check_bind_eq_ok_iff, hold_eq_ok_iff v, holdEntries_eq_ok_iff rest,
        partsOfEntries, List.forall_mem_append, Holdable]

end

end AjaxCallback.Toml
