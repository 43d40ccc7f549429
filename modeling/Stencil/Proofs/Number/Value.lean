import Stencil.Number.Basic
import Mathlib.Algebra.Order.Field.Rat
import Mathlib.Algebra.Order.Ring.Cast
import Mathlib.Data.Int.Cast.Lemmas
import Mathlib.Data.Nat.Cast.Field

/-!
# The values of numbers

A number has an exact value (`Number.value`), whichever way it is held. If that is a whole number of at most fifteen
digits, these digits are what the number is displayed as (`Number.display_eq_repr`).
-/

namespace Stencil

namespace Double

/-- The exact size of a double. -/
def size (x : Double) : ℚ :=
  x.significand * 2 ^ x.exponent

/-- The exact value of a double. Both zeros have the value 0. -/
def value (x : Double) : ℚ :=
  if x.negative then -x.size else x.size

variable {x : Double}

theorem size_nonneg (x : Double) : 0 ≤ x.size :=
  mul_nonneg (Nat.cast_nonneg x.significand) (zpow_nonneg zero_le_two x.exponent)

theorem size_of_exponent_nonneg (h : 0 ≤ x.exponent) :
    x.size = ((x.significand <<< x.exponent.toNat : ℕ) : ℚ) := by
  obtain ⟨k, hk⟩ := Int.eq_ofNat_of_zero_le h
  rw [size, hk, Int.toNat_natCast, Nat.shiftLeft_eq, zpow_natCast]
  push_cast
  rfl

theorem size_of_exponent_neg (h : x.exponent < 0) :
    x.size = (x.significand : ℚ) / ((1 <<< (-x.exponent).toNat : ℕ) : ℚ) := by
  obtain ⟨k, hk⟩ := Int.eq_ofNat_of_zero_le (show 0 ≤ -x.exponent by omega)
  have hexponent : x.exponent = -(k : Int) := by omega
  rw [size, hk, hexponent, Int.toNat_natCast, Nat.shiftLeft_eq, one_mul, zpow_neg, zpow_natCast, div_eq_mul_inv]
  push_cast
  rfl

theorem value_of_size_eq {m : Nat} (h : x.size = m) :
    x.value = ((if x.negative then -(m : Int) else m : Int) : ℚ) := by
  rw [value, h]
  split <;> push_cast <;> rfl

theorem size_eq_of_value_eq {n : Int} (h : x.value = n) : x.size = n.natAbs := by
  have hsize := size_nonneg x
  rw [Nat.cast_natAbs, Int.cast_abs, ← h, value]
  split
  · rw [abs_neg, abs_of_nonneg hsize]
  · rw [abs_of_nonneg hsize]

/-- A double is equal to a whole number exactly if it has its value. -/
theorem toInt?_eq_some_iff {n : Int} : x.toInt? = some n ↔ x.value = n := by
  have hsome {m : Nat} (h : x.size = m) :
      some (if x.negative then -(m : Int) else m) = some n ↔ x.value = n := by
    rw [value_of_size_eq h, Option.some.injEq, Int.cast_inj]
  unfold toInt?
  by_cases hexponent : 0 ≤ x.exponent
  · rw [if_pos hexponent]
    exact hsome (size_of_exponent_nonneg hexponent)
  · have hsize := size_of_exponent_neg (not_le.mp hexponent)
    have hpos : 0 < 1 <<< (-x.exponent).toNat := by
      rw [Nat.shiftLeft_eq, one_mul]
      exact Nat.two_pow_pos _
    rw [if_neg hexponent]
    generalize 1 <<< (-x.exponent).toNat = den at hsize hpos
    have hden : (den : ℚ) ≠ 0 := Nat.cast_ne_zero.mpr (Nat.pos_iff_ne_zero.mp hpos)
    by_cases hdvd : x.significand % den = 0
    · simp only [if_pos hdvd]
      have hquotient : x.size = ((x.significand / den : ℕ) : ℚ) := by
        rw [hsize, Nat.cast_div (Nat.dvd_of_mod_eq_zero hdvd) hden]
      exact hsome hquotient
    · simp only [if_neg hdvd]
      refine iff_of_false nofun ?_
      -- If the value were whole, the significand would be a multiple of the denominator.
      intro hvalue
      have hmul : (x.significand : ℚ) = ((n.natAbs * den : ℕ) : ℚ) := by
        rw [Nat.cast_mul, ← size_eq_of_value_eq hvalue, hsize, div_mul_cancel₀ _ hden]
      rw [Nat.cast_inj.mp hmul] at hdvd
      exact hdvd (Nat.mul_mod_left _ _)

end Double

namespace Number

/-- The exact value of a number. -/
def value : Number → ℚ
  | int n => n
  | double x => x.value

/-- The digits of a whole number are those that any whole number is written with. -/
theorem wholeText_eq_repr (n : Int) : wholeText n = n.repr := by
  cases n with
  | ofNat m =>
    rw [wholeText, if_neg (by simp)]
    rfl
  | negSucc m =>
    rw [wholeText, if_pos (Int.negSucc_lt_zero m)]
    rfl

theorem display_eq_repr {a : Number} {n : Int} (hlt : |n| < 10 ^ 15) (h : a.value = n) : a.display = n.repr := by
  have hwhole : a.whole? = some n := by
    cases a with
    | int m => rw [whole?, Int.cast_inj.mp h]
    | double x =>
      have hlimit : n.natAbs < wholeLimit := by
        rw [Int.abs_eq_natAbs] at hlt
        unfold wholeLimit
        omega
      rw [whole?, Double.toInt?_eq_some_iff.mpr h, Option.filter_some, if_pos (decide_eq_true hlimit)]
  unfold display
  rw [hwhole]
  exact wholeText_eq_repr n

/-- Two numbers are the same, or both have the value of one whole number of at most fifteen digits, be it held as such
or as a double. -/
def Alike (a b : Number) : Prop :=
  a = b ∨ ∃ n : Int, |n| < 10 ^ 15 ∧ a.value = n ∧ b.value = n

theorem Alike.display_eq {a b : Number} (h : a.Alike b) : a.display = b.display := by
  rcases h with rfl | ⟨n, hlt, ha, hb⟩
  · rfl
  · rw [display_eq_repr hlt ha, display_eq_repr hlt hb]

end Number

end Stencil
