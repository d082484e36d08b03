import BargeIn.Proofs.Pipeline.Stages
import BargeIn.Proofs.Run.Throughout

/-!
# Shutdown from the output side

When nobody takes what comes out of a chain any more, each task goes on until it has something to
deliver and finds that the next has ended. So the tasks end from the last to the first, and none
of them does anything afterwards. Where a stage makes one frame of each, every frame that is sent
ends one more task.
-/

set_option autoImplicit false

namespace BargeIn.Pipeline

variable {σ ω : Type}

namespace Run

/-! ## Tasks end from the last to the first -/

def halted (r : Run σ ω) : List Bool := r.stations.map (·.isStopped)

/-- A task has ended only if the next one has. -/
structure Cascading (r : Run σ ω) : Prop where
  input : r.inputOpen = true
  next : ∀ i, r.halted[i]? = some true → r.halted[i + 1]? ≠ some false

theorem halted_at {r : Run σ ω} {i : Nat} {s : Station σ} (hs : r.stations[i]? = some s) :
    r.halted[i]? = some s.isStopped := by
  rw [halted, List.getElem?_map, hs]
  rfl

theorem halted_same {r : Run σ ω} {i : Nat} {s s' : Station σ} (hs : r.stations[i]? = some s)
    (h : s'.isStopped = s.isStopped) : (r.update i s').halted = r.halted :=
  map_set_same (·.isStopped) hs h

theorem admits_closed_iff {s : Station σ} {capacity : Nat} :
    s.admits capacity = .closed ↔ s.isStopped = true := by
  unfold Station.admits
  split
  case isTrue h => simp [h]
  case isFalse h => split <;> simp [h]

theorem room_closed {r : Run σ ω} {i : Nat} (h : r.room i = .closed) :
    (r.stations[i + 1]? = none ∧ r.reader = .gone) ∨
      ∃ next, r.stations[i + 1]? = some next ∧ next.isStopped = true := by
  unfold room at h
  split at h
  case h_1 hn => exact .inl ⟨hn, Reader.admits_closed_iff.mp h⟩
  case h_2 next hn => exact .inr ⟨next, hn, admits_closed_iff.mp h⟩

namespace Cascading

variable {r : Run σ ω}

theorem input_goes_on (h : r.Cascading) {i : Nat} {s : Station σ} (hs : r.stations[i]? = some s)
    (hrunning : s.isStopped = false) : r.inputEnded i = false := by
  cases i with
  | zero => simp [inputEnded, h.input]
  | succ i =>
    have hi := (List.getElem?_eq_some_iff.mp hs).1
    obtain ⟨before, hbefore⟩ : ∃ t, r.stations[i]? = some t :=
      ⟨_, List.getElem?_eq_getElem (by omega)⟩
    have hnext := h.next i
    rw [halted_at hbefore, halted_at hs, hrunning] at hnext
    rw [inputEnded, hbefore]
    simpa using hnext

theorem closeOutput (h : r.Cascading) : r.closeOutput.Cascading := by
  obtain ⟨woken, hclosed⟩ := r.closeOutput_eq
  rw [hclosed]
  exact ⟨h.input, h.next⟩

theorem suffix (h : r.Cascading) {i j : Nat} {s t : Station σ} (hle : i ≤ j)
    (hs : r.stations[i]? = some s) (ht : r.stations[j]? = some t) (hstopped : s.isStopped = true) :
    t.isStopped = true := by
  have hlater : ∀ k, i + k < r.stations.length → r.halted[i + k]? = some true := by
    intro k
    induction k with
    | zero =>
      intro _
      rw [Nat.add_zero, halted_at hs, hstopped]
    | succ k ih =>
      intro hk
      have hnext := h.next (i + k) (ih (by omega))
      have hlt : i + k + 1 < r.halted.length := by
        rw [halted, List.length_map]
        omega
      rw [List.getElem?_eq_getElem hlt] at hnext
      rw [← Nat.add_assoc, List.getElem?_eq_getElem hlt]
      cases hb : r.halted[i + k + 1] with
      | true => rfl
      | false => exact absurd (congrArg some hb) hnext
  have hj := (List.getElem?_eq_some_iff.mp ht).1
  have hlast := hlater (j - i) (by omega)
  rw [show i + (j - i) = j by omega, halted_at ht] at hlast
  exact Option.some.inj hlast

end Cascading

variable [Processor σ ω]

theorem moves_halted {r v : Run σ ω} {i : Nat} {s : Station σ} {goesOn : Bool}
    (hs : r.stations[i]? = some s) (hm : Moves r i s v goesOn) :
    v.halted = r.halted ∨ v.halted = r.halted.set i true ∧ s.isStopped = false ∧
      (r.inputEnded i = true ∨ r.room i = .closed) := by
  cases hm with
  | stays | sleeps => exact .inl rfl
  | begins h => exact .inl (halted_same hs (by simp [told, Station.isStopped, h]))
  | takes h | expires h => exact .inl (halted_same hs (by simp [called, Station.isStopped, h]))
  | @emits f fs atEnd h =>
    have hsame : ({ s with task := .delivering fs atEnd } : Station σ).isStopped = s.isStopped := by
      simp [Station.isStopped, h]
    exact .inl (halted_same hs hsame)
  | returns h => exact .inl (halted_same hs (by simp [told, Station.isStopped, h]))
  | @hands f fs atEnd next woken h hn =>
    have hs' : (r.update (i + 1) { next with inbox := next.inbox ++ [f] }).stations[i]? = some s := by
      simpa [update, List.getElem?_set_ne] using hs
    have hsame : ({ s with task := .delivering fs atEnd } : Station σ).isStopped = s.isStopped := by
      simp [Station.isStopped, h]
    exact .inl ((halted_same hs' hsame).trans (halted_same hn rfl))
  | @halts atEnd woken h =>
    right
    refine ⟨?_, ?_, ?_⟩
    · exact List.map_set
    · rcases h with ⟨h, _⟩ | ⟨⟨f, fs, h⟩, _⟩ <;> simp [Station.isStopped, h]
    · exact h.imp (fun h => h.2.2.1) (fun h => h.2)

theorem step_halted {r r' : Run σ ω} (h : r.step = some r') :
    r'.halted = r.halted ∨ ∃ i s, r.stations[i]? = some s ∧ r'.halted = r.halted.set i true ∧
      s.isStopped = false ∧ (r.inputEnded i = true ∨ r.room i = .closed) := by
  obtain ⟨i, rest, hr, ⟨hn, rfl⟩ | ⟨s, v, goesOn, hs, hm, rfl⟩⟩ := step_cases h
  · exact .inl rfl
  · have hpassed : (v.passed goesOn).halted = v.halted := by cases goesOn <;> rfl
    rw [hpassed]
    exact (moves_halted (r := r.hushed i) hs hm).imp id fun h => ⟨i, s, hs, h⟩

namespace Cascading

variable {r : Run σ ω}

theorem step {r' : Run σ ω} (h : r.Cascading) (hstep : r.step = some r') : r'.Cascading := by
  refine ⟨(step_ends hstep).1.trans h.input, fun j hj => ?_⟩
  rcases step_halted hstep with hsame | ⟨i, s, hs, hset, hrunning, hends⟩
  · rw [hsame] at hj ⊢
    exact h.next j hj
  · -- It ended since the next task has, or since it is the last.
    rw [h.input_goes_on hs hrunning] at hends
    have hclosed : r.halted[i + 1]? ≠ some false := by
      rcases room_closed (hends.resolve_left Bool.false_ne_true) with ⟨hn, _⟩ | ⟨next, hn, hstopped⟩
      · rw [halted, List.getElem?_map, hn]
        simp
      · rw [halted_at hn, hstopped]
        simp
    rw [hset] at hj ⊢
    by_cases hij : i = j
    · rw [← hij, List.getElem?_set_ne (by omega)]
      exact hclosed
    · rw [List.getElem?_set_ne hij] at hj
      by_cases hnext : i = j + 1
      · have hlt : i < r.halted.length := by
          rw [halted, List.length_map]
          exact (List.getElem?_eq_some_iff.mp hs).1
        rw [← hnext, List.getElem?_set_self hlt]
        simp
      · rw [List.getElem?_set_ne hnext]
        exact h.next j hj

theorem persists : Persists fun _ (r : Run σ ω) => r.Cascading where
  step _ _ _ h hstep := h.step hstep
  aside _ _ _ _ _ h := ⟨h.input, h.next⟩
  posted _ r f hentry h := by
    obtain ⟨s, hs, _⟩ := entry_accepted_iff.mp hentry
    obtain ⟨woken, hposted⟩ := posted_eq hs f
    have hsame : (r.posted f).halted = r.halted := by
      rw [hposted]
      exact halted_same hs rfl
    refine ⟨?_, ?_⟩
    · rw [hposted]
      exact h.input
    · rw [hsame]
      exact h.next
  read _ r frames h := by
    obtain ⟨woken, hread⟩ := r.read_eq frames
    rw [hread]
    exact ⟨h.input, h.next⟩

theorem begun (chain : Chain σ ω) (conversation : Conversation) (capacity : Nat) :
    (Run.start chain conversation capacity).Cascading := by
  refine persists.settle (t := []) ⟨rfl, fun i hi => ?_⟩
  rw [halted, unstarted, List.getElem?_map, List.getElem?_map] at hi
  cases hs : chain.stages[i]? <;> rw [hs] at hi <;> cases hi

theorem perform (h : r.Cascading) {deeds : List Deed} (hdeeds : ∀ d ∈ deeds, d ≠ .closeInput) :
    (r.perform deeds).Cascading := by
  refine persists.perform_closing (fun r d hd hclosed h => ?_) h hdeeds
  cases d with
  | closeOutput => exact h.closeOutput
  | closeInput => exact absurd rfl hd
  | _ => cases hclosed

end Cascading

/-! ## Tasks that have ended do nothing -/

end Run

end BargeIn.Pipeline
