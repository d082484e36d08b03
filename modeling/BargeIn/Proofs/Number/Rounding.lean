import Mathlib.Algebra.Order.Field.Basic
import Mathlib.Algebra.Ring.Parity
import Mathlib.Data.Rat.Cast.Order
import Mathlib.Tactic.FieldSimp
import Mathlib.Tactic.Linarith
import BargeIn.Number.Binary64

/-!
# Rounding to a whole number

A quotient is rounded to the nearest whole number, and a tie to the even one. This determines the
whole number, so rounding keeps the order of numbers, wherever they come from.
-/

set_option autoImplicit false

namespace BargeIn.Number

theorem roundRatio_cases (num den : Nat) :
    (roundRatio num den = num / den ∧ 2 * (num % den) ≤ den) ∨
      (roundRatio num den = num / den + 1 ∧ den ≤ 2 * (num % den)) := by
  unfold roundRatio
  dsimp only
  split
  · exact .inl ⟨rfl, by omega⟩
  · split
    · exact .inr ⟨rfl, by omega⟩
    · have htie : 2 * (num % den) = den := by omega
      rcases Nat.mod_two_eq_zero_or_one (num / den) with heven | hodd
      · exact .inl ⟨by rw [heven, Nat.add_zero], Nat.le_of_eq htie⟩
      · exact .inr ⟨by rw [hodd], Nat.le_of_eq htie.symm⟩

theorem roundRatio_le {num den bound : Nat} (hd : 0 < den) (h : num ≤ bound * den) :
    roundRatio num den ≤ bound := by
  rcases roundRatio_cases num den with ⟨hq, -⟩ | ⟨hq, hr⟩
  · rw [hq]
    exact Nat.div_le_of_le_mul (Nat.mul_comm bound den ▸ h)
  · rw [hq]
    have hsum := Nat.div_add_mod num den
    apply Nat.lt_of_mul_lt_mul_left (a := den)
    rw [Nat.mul_comm den bound]
    omega

theorem roundRatio_pos_iff {den : Nat} (hd : 0 < den) (num : Nat) :
    0 < roundRatio num den ↔ den < 2 * num := by
  rcases Nat.lt_or_ge num den with hlt | hge
  · have hq : num / den = 0 := Nat.div_eq_of_lt hlt
    have hr : num % den = num := Nat.mod_eq_of_lt hlt
    simp only [roundRatio, hq, hr]
    split
    · omega
    · split <;> omega
  · have hq : 0 < num / den := Nat.div_pos hge hd
    rcases roundRatio_cases num den with ⟨h, -⟩ | ⟨h, -⟩ <;> omega

/-- No whole number is nearer, and if another is as near then this one is even. -/
structure NearestEven (q : ℚ) (n : ℕ) : Prop where
  near : |q - n| ≤ 1 / 2
  even : |q - n| = 1 / 2 → Even n

namespace NearestEven

theorem natCast (n : ℕ) : NearestEven n n := by
  refine ⟨?_, fun htie => ?_⟩
  · rw [sub_self, abs_zero]
    norm_num
  · rw [sub_self, abs_zero] at htie
    norm_num at htie

/-- Of two numbers the greater one is not rounded to less. They could only be so if they were equal
and half-way, and then both results would be even. -/
theorem mono {a b : ℚ} {m n : ℕ} (hm : NearestEven a m) (hn : NearestEven b n) (hab : a ≤ b) :
    m ≤ n := by
  by_contra hlt
  have hstep : (n : ℚ) + 1 ≤ m := by exact_mod_cast Nat.lt_of_not_le hlt
  have hlow : (m : ℚ) - a ≤ 1 / 2 := by linarith [(abs_le.mp hm.near).1]
  have hhigh : b - n ≤ 1 / 2 := (abs_le.mp hn.near).2
  have hm' : a - m = -(1 / 2) := by linarith
  have hn' : b - n = 1 / 2 := by linarith
  have heven : Even m := hm.even (by rw [hm']; norm_num)
  have heven' : Even n := hn.even (by rw [hn']; norm_num)
  have hnext : m = n + 1 := by
    have hcast : (m : ℚ) = (n + 1 : ℕ) := by push_cast; linarith
    exact_mod_cast hcast
  rw [hnext, Nat.even_add_one] at heven
  exact heven heven'

theorem eq_iff {q : ℚ} {n : ℕ} (h : NearestEven q n) (m : ℕ) : NearestEven q m ↔ m = n := by
  constructor
  · intro hm
    exact Nat.le_antisymm (hm.mono h le_rfl) (h.mono hm le_rfl)
  · rintro rfl
    exact h

/-! How a number between two whole numbers is rounded. -/

theorem down {q : ℕ} {r : ℚ} (h0 : 0 ≤ r) (h : r < 1 / 2) : NearestEven (q + r) q := by
  rw [← abs_of_nonneg h0] at h
  refine ⟨?_, fun htie => ?_⟩
  · rw [add_sub_cancel_left]
    exact h.le
  · rw [add_sub_cancel_left] at htie
    exact absurd htie h.ne

theorem up {q : ℕ} {r : ℚ} (h1 : r < 1) (h : 1 / 2 < r) : NearestEven (q + r) (q + 1 : ℕ) := by
  have hrest : |(q : ℚ) + r - (q + 1 : ℕ)| = 1 - r := by
    rw [abs_of_neg] <;> push_cast <;> linarith
  refine ⟨by rw [hrest]; linarith, fun htie => ?_⟩
  rw [hrest] at htie
  linarith

theorem tie (q : ℕ) : NearestEven (q + 1 / 2) (q + q % 2 : ℕ) := by
  have heven : Even (q + q % 2) := by
    rw [Nat.even_iff]
    omega
  refine ⟨?_, fun _ => heven⟩
  rcases Nat.mod_two_eq_zero_or_one q with hq | hq <;> rw [hq, abs_le] <;> push_cast <;>
    constructor <;> linarith

end NearestEven

theorem roundRatio_nearestEven {den : ℕ} (hd : 0 < den) (num : ℕ) :
    NearestEven (num / den) (roundRatio num den) := by
  have hden : (0 : ℚ) < den := by exact_mod_cast hd
  have hsum : (den : ℚ) * (num / den : ℕ) + (num % den : ℕ) = num := by
    exact_mod_cast Nat.div_add_mod num den
  have hsplit : (num : ℚ) / den = (num / den : ℕ) + (num % den : ℕ) / den := by
    field_simp
    exact hsum.symm
  rw [hsplit]
  rcases lt_trichotomy (2 * (num % den)) den with hlow | hhalf | hhigh
  · have hdown : roundRatio num den = num / den := by simp [roundRatio, hlow]
    rw [hdown]
    refine .down (by positivity) ?_
    rw [div_lt_div_iff₀ hden two_pos, one_mul]
    exact_mod_cast Nat.mul_comm _ 2 ▸ hlow
  · have htie : roundRatio num den = num / den + num / den % 2 := by simp [roundRatio, hhalf]
    have hrest : ((num % den : ℕ) : ℚ) / den = 1 / 2 := by
      rw [div_eq_div_iff hden.ne' two_ne_zero, one_mul]
      exact_mod_cast Nat.mul_comm _ 2 ▸ hhalf
    rw [htie, hrest]
    exact .tie _
  · have hup : roundRatio num den = num / den + 1 := by
      simp [roundRatio, hhigh, Nat.le_of_lt hhigh]
    rw [hup]
    refine .up ?_ ?_
    · rw [div_lt_one hden]
      exact_mod_cast Nat.mod_lt num hd
    · rw [div_lt_div_iff₀ two_pos hden, one_mul]
      exact_mod_cast Nat.mul_comm _ 2 ▸ hhigh

end BargeIn.Number
