import BargeIn.Proofs.Pipeline.Calls
import BargeIn.Proofs.Run.Settling

/-!
# What stages owe the run

Every stage emits at most two frames, and a stage whose deadline has been served has none that is
due. So the tasks of a chain of stages always come to rest.
-/

set_option autoImplicit false

namespace BargeIn.Pipeline

namespace Listener

theorem call_expire_few (l : Listener) (now : Instant) : (l.call (.expire now)).1.length ≤ 1 := by
  obtain ⟨⟨policy, session⟩, suppressor, conversation⟩ := l
  cases session with
  | none => exact Nat.zero_le 1
  | some session => exact Option.length_toList_le

theorem call_process_few (l : Listener) (f : Frame) : (l.call (.process f)).1.length ≤ 2 := by
  cases f with
  | transcript f =>
    have hle : ∀ o : Option Frame, (o.toList ++ [Frame.transcript f]).length ≤ 2 := by
      intro o
      cases o <;> simp
    exact hle _
  | control control => cases control <;> simp [Listener.call, Handler.process]
  | _ => simp [Listener.call, Handler.process]

end Listener

namespace Handler

theorem expire_calm (h : Handler) (now d : Instant) (hd : (h.expire now).2.deadline = some d) :
    now < d := by
  obtain ⟨policy, session⟩ := h
  cases session with
  | none => cases hd
  | some session =>
    rcases Policy.poll_cases session now with ⟨hp, hahead⟩ | ⟨_, _, -, -, hp⟩
    · simp only [expire, hp] at hd
      exact hahead d hd
    · simp only [expire, hp] at hd
      cases hd

theorem expire_due (h : Handler) {now d : Instant} (hd : h.deadline = some d) (hle : d ≤ now) :
    (h.expire now).1 = [.interrupt .timeout none] ∧ (h.expire now).2.deadline = none := by
  obtain ⟨policy, session⟩ := h
  cases session with
  | none => cases hd
  | some session =>
    rcases Policy.poll_cases session now with ⟨-, hahead⟩ | ⟨_, _, -, -, hp⟩
    · exact absurd hle (Int.not_le.mpr (hahead d hd))
    · simp only [expire, hp]
      exact ⟨rfl, rfl⟩

end Handler

theorem Rule.process_few (r : Rule) (f : Frame) (out : List Frame) (h : r.process f = .ok out) :
    out.length ≤ 2 := by
  unfold Rule.process at h
  split at h <;> cases h <;> simp

instance : Tame Stage where
  process_few stage w c now f out h := by
    cases stage with
    | handler shared =>
      have hfew := Listener.call_process_few ⟨shared.within w, w.suppressor, c⟩ f
      cases h
      exact hfew
    | filter =>
      cases h
      exact Nat.le_succ 1
    | relay name =>
      cases h
      exact Nat.le_succ 1
    | rule r => exact r.process_few f out h
  expire_few stage w c now out h := by
    cases stage with
    | handler shared =>
      have hfew := Listener.call_expire_few ⟨shared.within w, w.suppressor, c⟩ now
      cases h
      exact Nat.le_succ_of_le hfew
    | filter | relay =>
      cases h
      exact Nat.zero_le 2
    | rule r =>
      cases hf : r.alarmFails with
      | true => simp [Processor.expire, Stage.expire, Rule.expire, hf] at h
      | false =>
        simp [Processor.expire, Stage.expire, Rule.expire, hf] at h
        exact h ▸ Nat.le_succ 1
  expire_served stage w c now d hd := by
    cases stage with
    | handler shared => exact (shared.within w).expire_calm now d hd
    | filter => cases hd
    | relay name => cases hd
    | rule r => cases hd

end BargeIn.Pipeline
