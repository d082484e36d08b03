import Mathlib.Control.Monad.Basic
import BargeIn.Proofs.Pipeline.Standard
import BargeIn.Proofs.Run.Underway

/-!
# Running chains and single passages

While no deadline is reached, a running chain makes of each frame that is sent what a passage of
the frame through the chain makes of it, although each stage has its own view of the conversation
and is told when the stream starts and stops.
-/

set_option autoImplicit false

namespace BargeIn.Pipeline

namespace Run

end Run

def Stage.Fresh : Stage → Prop
  | .handler h => h.session = none
  | .rule r => r.alarmAfter = none ∧ r.alarm = none
  | .filter | .relay _ => True

/-- No frame has gone through the chain. -/
structure Chain.Fresh (chain : Chain Stage Shared) : Prop where
  stages : ∀ s ∈ chain.stages, s.Fresh
  world : chain.world.suppressor.armedUntil = none

theorem Stage.Fresh.deadline_eq {stage : Stage} (h : stage.Fresh) : stage.deadline = none := by
  cases stage with
  | handler handler =>
    have hsession : handler.session = none := h
    simp [Stage.deadline, SharedHandler.deadline, hsession]
  | rule r => exact h.2
  | filter | relay => rfl

theorem Chain.Fresh.running {chain : Chain Stage Shared} (h : chain.Fresh) :
    chain.running.Fresh := by
  unfold Chain.running
  split
  case isTrue => exact ⟨by simp [Stage.Fresh], h.world⟩
  case isFalse => exact h

end BargeIn.Pipeline
