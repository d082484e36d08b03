import BargeIn.Policy.Config
import BargeIn.Proofs.Number.Values

/-!
# Durations of settings

No setting has a duration of more than an hour. Settings that are accepted have the durations that
their numbers of seconds are rounded to, which for a tiny one may be no time at all.
-/

set_option autoImplicit false

namespace BargeIn

open Number

theorem checkSeconds_eq_ok_iff (x : Binary64) : checkSeconds x = .ok () ↔
    x.isFinite = true ∧ x.isBelowZero = false ∧ x.exceeds maxSeconds = false := by
  unfold checkSeconds
  cases x.isFinite <;> cases x.isBelowZero <;> cases x.exceeds maxSeconds <;> simp

theorem boundedNanos_le (x : Binary64) : boundedNanos x ≤ maxSeconds * nanosPerSecond := by
  unfold boundedNanos
  split
  · exact Nat.zero_le _
  · split
    case isTrue => exact Nat.le_refl _
    case isFalse h =>
      have hx : ¬ maxSeconds * Binary64.scale < x.units := by
        simpa [Binary64.exceeds] using (Bool.or_eq_false_iff.mp (Bool.eq_false_iff.mpr h)).2
      apply roundRatio_le Binary64.scale_pos
      calc x.units * nanosPerSecond
          ≤ maxSeconds * Binary64.scale * nanosPerSecond :=
            Nat.mul_le_mul_right _ (Nat.le_of_not_lt hx)
        _ = maxSeconds * nanosPerSecond * Binary64.scale := Nat.mul_right_comm _ _ _

theorem boundedNanos_eq {x : Binary64} (h : checkSeconds x = .ok ()) :
    boundedNanos x = secondsMagnitude x := by
  obtain ⟨hfinite, hsign, hlong⟩ := (checkSeconds_eq_ok_iff x).mp h
  obtain ⟨hnumber, hbounded⟩ := (Binary64.isFinite_iff x).mp hfinite
  cases hneg : x.isNegative with
  | false => simp [boundedNanos, hnumber, hneg, hbounded, hlong]
  | true =>
    have hzero : x.units = 0 := by
      rw [Binary64.units_eq_zero_iff]
      simpa [Binary64.isBelowZero, hneg] using hsign
    simp [boundedNanos, hneg, secondsMagnitude, hzero, roundRatio, Binary64.scale_pos]

theorem Instant.add?_eq_some_iff (t : Instant) (nanos : Nat) (later : Instant) :
    t.add? nanos = some later ↔
      t.nanos + nanos ≤ Instant.latest.nanos ∧ later.nanos = t.nanos + nanos := by
  obtain ⟨n⟩ := later
  unfold Instant.add?
  split
  case isTrue h => simp [h, eq_comm]
  case isFalse h => simp [h]

namespace Policy.Config

theorem named_eq_ok_iff (field : String) (checked : Except SecondsFault Unit) :
    named field checked = .ok () ↔ checked = .ok () := by
  cases checked with
  | ok => exact ⟨fun _ => rfl, fun _ => rfl⟩
  | error fault => exact ⟨nofun, nofun⟩

theorem nonzero_eq_ok_iff (x : Binary64) : nonzero x = .ok () ↔ x.isZero = false := by
  unfold nonzero
  cases x.isZero <;> simp

theorem bind_eq_ok_iff (first later : Except Fault Unit) :
    (first >>= fun _ => later) = .ok () ↔ first = .ok () ∧ later = .ok () := by
  cases first <;> simp [bind, Except.bind]

theorem validate_eq_ok_iff (c : Config) : c.validate = .ok () ↔
    checkSeconds c.minInterruptionDuration = .ok () ∧
      checkSeconds c.ackSuppressionWindow = .ok () ∧
      checkSeconds c.falseInterruptionTimeout = .ok () ∧
      c.falseInterruptionTimeout.isZero = false := by
  unfold validate
  rw [bind_eq_ok_iff, bind_eq_ok_iff, bind_eq_ok_iff, named_eq_ok_iff, named_eq_ok_iff,
    named_eq_ok_iff, named_eq_ok_iff, nonzero_eq_ok_iff]

theorem resumeTimeout_eq {c : Config} (hc : c.validate = .ok ()) :
    c.resumeTimeout = secondsMagnitude c.falseInterruptionTimeout := by
  obtain ⟨-, -, hchecked, -⟩ := (validate_eq_ok_iff c).mp hc
  exact boundedNanos_eq hchecked

def waits (c : Config) : Bool :=
  Binary64.scale < 2 * (c.falseInterruptionTimeout.units * nanosPerSecond)

/-- A timeout that is accepted may still be rounded to nothing. -/
theorem resumeTimeout_pos_iff {c : Config} (hc : c.validate = .ok ()) :
    0 < c.resumeTimeout ↔ c.waits = true := by
  rw [resumeTimeout_eq hc, secondsMagnitude, roundRatio_pos_iff Binary64.scale_pos, waits,
    decide_eq_true_iff]

end Policy.Config

end BargeIn
