import Mathlib.Order.WithBotTop
import BargeIn.Proofs.Number.Rounding

/-!
# The numbers that words denote

A finite word of the format denotes a rational number, an infinite one an end of the line, and all
others nothing. The checks and comparisons on words are those of the numbers they denote.
-/

set_option autoImplicit false

namespace BargeIn.Number

theorem twoTo_pos (n : Nat) : 0 < twoTo n := Nat.two_pow_pos n

namespace Binary64

theorem scale_pos : 0 < scale := twoTo_pos 1074

def toRat (x : Binary64) : ℚ :=
  (if x.isNegative then -(x.units : ℚ) else x.units) / scale

/-- The place of a word on the line with both infinities; not-a-number has none. -/
def value? (x : Binary64) : Option (WithBotTop ℚ) :=
  if x.isNaN then none
  else if x.isInfinite then some (if x.isNegative then ⊥ else ⊤)
  else some x.toRat

theorem isFinite_iff (x : Binary64) :
    x.isFinite = true ↔ x.isNaN = false ∧ x.isInfinite = false := by
  simp only [isFinite, isNaN, isInfinite, decide_eq_true_iff, decide_eq_false_iff_not]
  omega

theorem value?_finite {x : Binary64} (h : x.isFinite = true) :
    x.value? = some (x.toRat : WithBotTop ℚ) := by
  obtain ⟨hnan, hinf⟩ := (isFinite_iff x).mp h
  simp [value?, hnan, hinf]

theorem value?_cases {x : Binary64} {a : WithBotTop ℚ} (h : x.value? = some a) :
    x.isNaN = false ∧ (x.isInfinite = true ∧ a = (if x.isNegative then ⊥ else ⊤) ∨
      x.isFinite = true ∧ a = x.toRat) := by
  rw [isFinite_iff]
  unfold value? at h
  split at h
  case isTrue => cases h
  case isFalse hnan =>
    have hnumber : x.isNaN = false := Bool.eq_false_iff.mpr hnan
    split at h
    case isTrue hinf => exact ⟨hnumber, .inl ⟨hinf, (Option.some.inj h).symm⟩⟩
    case isFalse hinf =>
      exact ⟨hnumber, .inr ⟨⟨hnumber, Bool.eq_false_iff.mpr hinf⟩, (Option.some.inj h).symm⟩⟩

theorem units_eq_zero_iff (x : Binary64) : x.units = 0 ↔ x.isZero = true := by
  have hulp : x.ulp ≠ 0 := (twoTo_pos _).ne'
  have hunit : twoTo 52 ≠ 0 := (twoTo_pos 52).ne'
  have hbits := Nat.div_add_mod x.magnitudeBits (twoTo 52)
  rw [units, Nat.mul_eq_zero, or_iff_left hulp, significand, isZero, decide_eq_true_iff]
  change twoTo 52 * x.exponentField + x.fraction = x.magnitudeBits at hbits
  split
  case isTrue h => simp [← hbits, h]
  case isFalse h => simp [← hbits, h, hunit]

theorem toRat_neg_iff (x : Binary64) : x.toRat < 0 ↔ x.isBelowZero = true := by
  have hscale : (0 : ℚ) < scale := by exact_mod_cast scale_pos
  rw [toRat, div_lt_iff₀ hscale, zero_mul, isBelowZero, Bool.and_eq_true, Bool.not_eq_true',
    ← Bool.not_eq_true x.isZero, ← units_eq_zero_iff]
  cases x.isNegative <;> simp [Nat.pos_iff_ne_zero]

theorem toRat_eq {x : Binary64} (h : x.isBelowZero = false) : x.toRat = x.units / scale := by
  unfold toRat
  split
  case isFalse => rfl
  case isTrue hneg =>
    have hzero : x.units = 0 := by
      rw [units_eq_zero_iff]
      simpa [isBelowZero, hneg] using h
    rw [hzero, Nat.cast_zero, neg_zero]

theorem isNegative_of_pos {x : Binary64} (h : 0 < x.toRat) : x.isNegative = false := by
  rw [← Bool.not_eq_true]
  intro hneg
  rw [toRat, if_pos hneg, neg_div] at h
  exact absurd h (not_lt.mpr (neg_nonpos.mpr (by positivity)))

theorem toRat_nonneg {x : Binary64} (h : x.isBelowZero = false) : 0 ≤ x.toRat := by
  rw [← not_lt, toRat_neg_iff, h]
  decide

theorem exceeds_iff {x : Binary64} (h : x.isBelowZero = false) (n : ℕ) :
    x.exceeds n = true ↔ (n : ℚ) < x.toRat := by
  have hscale : (0 : ℚ) < scale := by exact_mod_cast scale_pos
  rw [toRat_eq h, lt_div_iff₀ hscale, exceeds, decide_eq_true_iff]
  exact_mod_cast Iff.rfl

end Binary64

end BargeIn.Number
