import BargeIn.Proofs.Run.Deeds

/-!
# What holds of stages throughout a run

Only its calls change a stage. A run tells a stage to start before it calls it in any other way,
and has it serve a deadline only when that is reached. So whatever such calls keep holds of the
stage as long as the chain runs.
-/

set_option autoImplicit false

namespace BargeIn.Pipeline

variable {σ ω : Type}

namespace Run

theorem replaced_cases {stations : List (Station σ)} {i j : Nat} {s t : Station σ}
    (h : (stations.set i s)[j]? = some t) : j = i ∧ t = s ∨ stations[j]? = some t := by
  by_cases hij : i = j
  · subst hij
    obtain ⟨_, rfl⟩ := List.getElem?_eq_some_iff.mp h
    exact .inl ⟨rfl, List.getElem_set_self _⟩
  · rw [List.getElem?_set_ne hij] at h
    exact .inr h

def Everywhere (P : Nat → σ → Prop) (r : Run σ ω) : Prop :=
  ∀ i s, r.stations[i]? = some s → P i s.stage

theorem Everywhere.update {P : Nat → σ → Prop} {r : Run σ ω} (h : r.Everywhere P) {i : Nat}
    {s : Station σ} (hs : P i s.stage) : (r.update i s).Everywhere P := by
  intro j t ht
  rcases replaced_cases ht with ⟨rfl, rfl⟩ | ht
  · exact hs
  · exact h j t ht

def Lives (fresh P : Nat → σ → Prop) (r : Run σ ω) : Prop :=
  ∀ i s, r.stations[i]? = some s → s.task = .unstarted ∧ fresh i s.stage ∨ P i s.stage

theorem lives_iff {P : Nat → σ → Prop} (r : Run σ ω) : r.Lives P P ↔ r.Everywhere P :=
  ⟨fun h i s hs => (h i s hs).elim (·.2) id, fun h i s hs => .inr (h i s hs)⟩

variable [Processor σ ω]

/-! ## Calls of one move -/

/-- What a move makes of a station's stage and task: the stage is called once or not at all. -/
inductive Calls (r : Run σ ω) (s : Station σ) : σ → Task → Prop
  | nothing {task : Task} (h : task = .unstarted ↔ s.task = .unstarted) : Calls r s s.stage task
  | starts (h : s.task = .unstarted) :
      Calls r s (Processor.start s.stage r.world s.conversation r.time).stage .waiting
  | takes (h : s.task = .waiting) (f : Frame) :
      Calls r s (Processor.process s.stage r.world s.conversation r.time f).stage
        (.delivering (emitted s.stage
          (Processor.process s.stage r.world s.conversation r.time f).result) f.isEndOfStream)
  | expires (h : s.task = .waiting) (hd : r.Due s.stage) :
      Calls r s (Processor.expire s.stage r.world s.conversation r.time).stage
        (.delivering (emitted s.stage
          (Processor.expire s.stage r.world s.conversation r.time).result) false)
  | stops {task : Task} (h : s.task ≠ .unstarted) (ht : task ≠ .unstarted) :
      Calls r s (Processor.stop s.stage r.world s.conversation r.time).stage task

theorem Calls.stopped (r : Run σ ω) {s : Station σ} {task : Task} (atEnd : Bool)
    (h : s.task ≠ .unstarted) (ht : task ≠ .unstarted) :
    Calls r s (r.stopped s atEnd).stage task := by
  cases atEnd with
  | true => exact .stops h ht
  | false => exact .nothing ⟨fun hu => absurd hu ht, fun hu => absurd hu h⟩

def Comes (r : Run σ ω) (stations : List (Station σ)) : Prop :=
  ∀ (j : Nat) (t : Station σ), stations[j]? = some t →
    ∃ s, r.stations[j]? = some s ∧ Calls r s t.stage t.task

theorem comes_self (r : Run σ ω) : r.Comes r.stations :=
  fun _ t ht => ⟨t, ht, .nothing Iff.rfl⟩

theorem Comes.set {r : Run σ ω} {stations : List (Station σ)} (h : r.Comes stations) {i : Nat}
    {s : Station σ} (hs : r.stations[i]? = some s) (s' : Station σ)
    (hcalls : Calls r s s'.stage s'.task) : r.Comes (stations.set i s') := by
  intro j t ht
  rcases replaced_cases ht with ⟨rfl, rfl⟩ | ht
  · exact ⟨s, hs, hcalls⟩
  · exact h j t ht

theorem Moves.comes {r v : Run σ ω} {i : Nat} {s : Station σ} {goesOn : Bool}
    (hm : Moves r i s v goesOn) (hs : r.stations[i]? = some s) : r.Comes v.stations := by
  have hsame := r.comes_self
  cases hm with
  | stays | sleeps => exact hsame
  | begins h => exact hsame.set hs _ (.starts h)
  | takes h => exact hsame.set hs _ (.takes h _)
  | expires h _ _ hd => exact hsame.set hs _ (.expires h hd)
  | @emits f fs atEnd h =>
    exact hsame.set hs { s with task := .delivering fs atEnd } (.nothing (by simp [h]))
  | returns h => exact hsame.set hs _ (.stopped r _ (by simp [h]) (by simp [told]))
  | halts h =>
    refine hsame.set hs _ (.stopped r _ ?_ (by simp [told]))
    rcases h with ⟨h, _⟩ | ⟨⟨f, fs, h⟩, _⟩ <;> simp [h]
  | @hands f fs atEnd next woken h hn =>
    -- Two stations change, and neither stage is called.
    have hnext := hsame.set hn { next with inbox := next.inbox ++ [f] } (.nothing Iff.rfl)
    exact hnext.set hs { s with task := .delivering fs atEnd } (.nothing (by simp [h]))

theorem step_calls {r r' : Run σ ω} (h : r.step = some r') {j : Nat} {t : Station σ}
    (ht : r'.stations[j]? = some t) :
    ∃ s, r.stations[j]? = some s ∧ Calls r s t.stage t.task := by
  obtain ⟨i, rest, _, ⟨_, rfl⟩ | ⟨s, v, goesOn, hs, hm, rfl⟩⟩ := step_cases h
  · exact ⟨t, ht, .nothing Iff.rfl⟩
  · have hstations : (v.passed goesOn).stations = v.stations := by cases goesOn <;> rfl
    rw [hstations] at ht
    obtain ⟨u, hu, hcalls⟩ := hm.comes hs _ _ ht
    refine ⟨u, hu, ?_⟩
    -- Without its alarms the run calls its stages in the same way.
    generalize t.stage = stage, t.task = task at hcalls
    cases hcalls with
    | nothing htask => exact .nothing htask
    | starts htask => exact .starts htask
    | takes htask f => exact .takes htask f
    | expires htask hd => exact .expires htask hd
    | stops htask hrunning => exact .stops htask hrunning

/-! ## What calls keep -/

/-- What the calls of a run bring about and keep, depending on the place of the stage. -/
structure Living (fresh P : Nat → σ → Prop) : Prop where
  start : ∀ i s (w : ω) c now, fresh i s ∨ P i s → P i (Processor.start s w c now).stage
  stop : ∀ i s (w : ω) c now, P i s → P i (Processor.stop s w c now).stage
  process : ∀ i s (w : ω) c now f, P i s → P i (Processor.process s w c now f).stage
  expire : ∀ i s (w : ω) c now d, Processor.deadline s = some d → d ≤ now → P i s →
    P i (Processor.expire s w c now).stage

namespace Living

variable {fresh P : Nat → σ → Prop}

theorem calls (hP : Living fresh P) {r : Run σ ω} {i : Nat} {s : Station σ} {stage : σ} {task : Task}
    (h : s.task = .unstarted ∧ fresh i s.stage ∨ P i s.stage) (hcalls : Calls r s stage task) :
    task = .unstarted ∧ fresh i stage ∨ P i stage := by
  have hstarted : s.task ≠ .unstarted → P i s.stage :=
    fun hs => h.resolve_left fun hfresh => hs hfresh.1
  cases hcalls with
  | nothing htask => exact h.imp_left fun hfresh => ⟨htask.mpr hfresh.1, hfresh.2⟩
  | starts => exact .inr (hP.start i _ _ _ _ (h.imp_left (·.2)))
  | takes htask => exact .inr (hP.process i _ _ _ _ _ (hstarted (by simp [htask])))
  | expires htask hd =>
    obtain ⟨d, hdeadline, hdue⟩ := hd
    rw [Instant.tick_le_iff] at hdue
    exact .inr (hP.expire i _ _ _ _ d hdeadline hdue (hstarted (by simp [htask])))
  | stops htask => exact .inr (hP.stop i _ _ _ _ (hstarted htask))

theorem persists (hP : Living fresh P) : Persists fun _ (r : Run σ ω) => r.Lives fresh P := by
  apply Persists.ofStations
    (Q := fun stations => ∀ i s, stations[i]? = some s → s.task = .unstarted ∧ fresh i s.stage ∨
      P i s.stage)
  · intro r v i s goesOn h hs hm j t ht
    obtain ⟨u, hu, hcalls⟩ := hm.comes hs _ _ ht
    exact hP.calls (h j u hu) hcalls
  · intro r s f h hs _ j t ht
    rcases replaced_cases ht with ⟨rfl, rfl⟩ | ht
    · exact h 0 s hs
    · exact h j t ht

end Living

/-- No call of a stage takes the property away. -/
structure Lasting (P : Nat → σ → Prop) : Prop where
  start : ∀ i s (w : ω) c now, P i s → P i (Processor.start s w c now).stage
  stop : ∀ i s (w : ω) c now, P i s → P i (Processor.stop s w c now).stage
  process : ∀ i s (w : ω) c now f, P i s → P i (Processor.process s w c now f).stage
  expire : ∀ i s (w : ω) c now, P i s → P i (Processor.expire s w c now).stage

namespace Lasting

variable {P : Nat → σ → Prop}

theorem stopped (hP : Lasting P) {r : Run σ ω} {i : Nat} {s : Station σ} (h : P i s.stage)
    (atEnd : Bool) : P i (r.stopped s atEnd).stage := by
  cases atEnd with
  | true => exact hP.stop i s.stage r.world s.conversation r.time h
  | false => exact h

theorem living (hP : Lasting P) : Living P P where
  start i s w c now h := hP.start i s w c now (h.elim id id)
  stop := hP.stop
  process := hP.process
  expire i s w c now _ _ _ h := hP.expire i s w c now h

theorem persists (hP : Lasting P) : Persists fun _ (r : Run σ ω) => r.Everywhere P := by
  have hpersists := hP.living.persists
  simpa only [lives_iff] using hpersists

theorem begun (hP : Lasting P) {chain : Chain σ ω}
    (h : ∀ i s, chain.stages[i]? = some s → P i s) (conversation : Conversation)
    (capacity : Nat) : (Run.start chain conversation capacity).Everywhere P := by
  apply hP.persists.settle (t := [])
  intro i t ht
  rw [unstarted, List.getElem?_map] at ht
  obtain ⟨s, hs, rfl⟩ := Option.map_eq_some_iff.mp ht
  exact h i s hs

end Lasting

end Run

end BargeIn.Pipeline
