import BargeIn.Proofs.Run.Flow

/-!
# The end of the input

When no more frames are sent to a run at rest, its tasks end one after the other, and nothing else
happens.
-/

set_option autoImplicit false

namespace BargeIn.Pipeline

variable {σ ω : Type}

def Station.ended (s : Station σ) : Station σ :=
  { s with task := .stopped }

namespace Run

/-- The first `k` tasks of a run at rest have ended, and it is the turn of the next. -/
structure Closing (r : Run σ ω) (k : Nat) (v : Run σ ω) : Prop where
  length : v.stations.length = r.stations.length
  ended : ∀ j < k, v.stations[j]? = (r.stations[j]?).map Station.ended
  waiting : ∀ j, k ≤ j → v.stations[j]? = r.stations[j]?
  ready : v.ready = if k < r.stations.length then [k] else []
  input : v.inputOpen = false
  output : v.output = r.output

namespace Closing

variable {r v : Run σ ω} {k : Nat}

theorem inputEnded (h : Closing r k v) : v.inputEnded k = true := by
  cases k with
  | zero => simp [Run.inputEnded, h.input]
  | succ k =>
    rw [Run.inputEnded, h.ended k (Nat.lt_succ_self k)]
    cases r.stations[k]? <;> rfl

theorem wakeSender (h : Closing r k v) (s : Station σ) :
    (v.update k s).wakeSender k = v.update k s := by
  cases k with
  | zero => rfl
  | succ k =>
    have hbefore := h.ended k (Nat.lt_succ_self k)
    simp only [Run.wakeSender, update, List.getElem?_set_ne (Nat.succ_ne_self k), hbefore]
    cases r.stations[k]? <;> rfl

theorem halt_roused (h : Closing r k v) (hk : k < r.stations.length) (s : Station σ) :
    v.halt k s =
      (v.update k s.ended).roused (if k + 1 < r.stations.length then [k + 1] else []) := by
  have hready : v.ready = [k] := h.ready.trans (if_pos hk)
  have hlength : (v.update k s.ended).stations.length = r.stations.length := by
    simp [update, h.length]
  have hended : v.halt k s = if k + 1 < r.stations.length
      then (v.update k s.ended).wake (k + 1) else v.update k s.ended := by
    rw [← hlength, ← h.wakeSender s.ended]
    rfl
  rw [hended]
  by_cases hnext : k + 1 < r.stations.length
  · simp only [hnext, if_true]
    simp [wake, update, roused, hready]
  · simp only [hnext, if_false]
    exact (roused_nil _).symm

theorem halt (h : Closing r k v) {s : Station σ} (hs : r.stations[k]? = some s) :
    Closing r (k + 1) { v.halt k s with ready := (v.halt k s).ready.drop 1 } := by
  have hk : k < r.stations.length := (List.getElem?_eq_some_iff.mp hs).1
  have hready : v.ready = [k] := h.ready.trans (if_pos hk)
  rw [h.halt_roused hk]
  refine ⟨?_, ?_, ?_, ?_, h.input, h.output⟩
  · simp [update, roused, h.length]
  · intro j hj
    by_cases hjk : k = j
    · subst hjk
      rw [hs]
      exact List.getElem?_set_self (h.length ▸ hk)
    · rw [← h.ended j (by omega)]
      exact List.getElem?_set_ne hjk
  · intro j hj
    rw [← h.waiting j (by omega)]
    exact List.getElem?_set_ne (by omega)
  · simp [update, roused, hready]

variable [Processor σ ω]

theorem step {v' : Run σ ω} (h : Closing r k v) (hrest : ∀ s ∈ r.stations, AtRest s)
    (hstep : v.step = some v') : k < r.stations.length ∧ Closing r (k + 1) v' := by
  by_cases hk : k < r.stations.length
  · refine ⟨hk, ?_⟩
    obtain ⟨s, hs⟩ : ∃ s, r.stations[k]? = some s := ⟨_, List.getElem?_eq_getElem hk⟩
    have hready : v.ready = [k] := h.ready.trans (if_pos hk)
    have hnext : v.stations[k]? = some s := (h.waiting k (Nat.le_refl k)).trans hs
    obtain ⟨htask, hinbox⟩ := hrest s (List.mem_of_getElem? hs)
    have hhushed : Closing r k (v.hushed k) :=
      ⟨h.length, h.ended, h.waiting, h.ready, h.input, h.output⟩
    have hmove : (v.hushed k).move k s = ((v.hushed k).halt k s, false) := by
      simp only [move, htask, hinbox, hhushed.inputEnded, if_true]
    rw [step_eq hready hnext, hmove] at hstep
    obtain rfl := Option.some.inj hstep
    exact hhushed.halt hs
  · have hidle : v.ready = [] := h.ready.trans (if_neg hk)
    rw [(step_eq_none_iff v).mpr hidle] at hstep
    cases hstep

end Closing

variable [Processor σ ω]

theorem closeInput_rest [Tame σ] {r : Run σ ω} (hrest : ∀ s ∈ r.stations, AtRest s)
    (hready : r.ready = []) (hstages : r.stations ≠ []) :
    r.closeInput.settle.stations = r.stations.map Station.ended ∧
      r.closeInput.settle.output = r.output := by
  have hpos := List.length_pos_iff.mpr hstages
  have hfirst : ∃ k ≤ r.stations.length, Closing r k r.closeInput := by
    refine ⟨0, Nat.zero_le _, ?_⟩
    constructor <;> simp [closeInput, wake, hready, hpos]
  obtain ⟨k, hk, hlast⟩ : ∃ k ≤ r.stations.length, Closing r k r.closeInput.settle := by
    apply settle_keeps (P := fun v => ∃ k ≤ r.stations.length, Closing r k v) _ hfirst
    rintro v v' ⟨k, _, hv⟩ hstep
    obtain ⟨hlt, hnext⟩ := hv.step hrest hstep
    exact ⟨k + 1, hlt, hnext⟩
  have hend : ¬k < r.stations.length := by
    intro hlt
    have hdone : r.closeInput.settle.ready = [] := settle_ready _
    rw [hlast.ready, if_pos hlt] at hdone
    cases hdone
  refine ⟨?_, hlast.output⟩
  apply List.ext_getElem?
  intro j
  rw [List.getElem?_map]
  by_cases hj : j < k
  · exact hlast.ended j hj
  · rw [hlast.waiting j (Nat.le_of_not_lt hj), List.getElem?_eq_none (by omega)]
    rfl

end Run

end BargeIn.Pipeline
