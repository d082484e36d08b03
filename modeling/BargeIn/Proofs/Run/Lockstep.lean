import Mathlib.Data.List.Forall2
import BargeIn.Proofs.Run.Deeds

/-!
# Runs in lockstep

Two chains whose stages correspond, so that corresponding calls of them have corresponding effects,
run in lockstep: the same tasks take turns, the same alarms are set, and what comes out of one
corresponds frame by frame to what comes out of the other. What the correspondence passes over is
therefore of no consequence to a run.
-/

set_option autoImplicit false

namespace BargeIn.Pipeline

inductive SameEnd {α β : Type} (R : α → β → Prop) : Except Fault α → Except Fault β → Prop
  | ok {a : α} {b : β} (h : R a b) : SameEnd R (.ok a) (.ok b)
  | error (fault : Fault) : SameEnd R (.error fault) (.error fault)

/-- What of one chain stands for what of another. -/
structure Correspondence (σ τ : Type) where
  stage : σ → τ → Prop
  frame : Frame → Frame → Prop
  conversation : Conversation → Conversation → Prop

section

variable {σ τ ω : Type} (k : Correspondence σ τ)

structure Effect.Matches {α β : Type} (R : α → β → Prop) (e : Effect σ ω α) (e' : Effect τ ω β) :
    Prop where
  stage : k.stage e.stage e'.stage
  world : e.world = e'.world
  conversation : k.conversation e.conversation e'.conversation
  result : SameEnd R e.result e'.result

inductive Task.Matches : Task → Task → Prop
  | unstarted : Matches .unstarted .unstarted
  | waiting : Matches .waiting .waiting
  | delivering {frames frames' : List Frame} (h : List.Forall₂ k.frame frames frames')
      (atEnd : Bool) : Matches (.delivering frames atEnd) (.delivering frames' atEnd)
  | stopped : Matches .stopped .stopped

structure Station.Matches (s : Station σ) (t : Station τ) : Prop where
  stage : k.stage s.stage t.stage
  conversation : k.conversation s.conversation t.conversation
  inbox : List.Forall₂ k.frame s.inbox t.inbox
  task : s.task.Matches k t.task

structure Pass.Matches (p : Pass σ ω) (p' : Pass τ ω) : Prop where
  stages : List.Forall₂ k.stage p.stages p'.stages
  world : p.world = p'.world
  conversation : k.conversation p.conversation p'.conversation
  result : SameEnd (List.Forall₂ k.frame) p.result p'.result

structure Run.Matches (r : Run σ ω) (r' : Run τ ω) : Prop where
  stations : List.Forall₂ (Station.Matches k) r.stations r'.stations
  world : r.world = r'.world
  capacity : r.capacity = r'.capacity
  now : r.now = r'.now
  inputOpen : r.inputOpen = r'.inputOpen
  reader : r.reader = r'.reader
  ready : r.ready = r'.ready
  alarms : r.alarms = r'.alarms
  output : List.Forall₂ (fun a b => a.1 = b.1 ∧ k.frame a.2 b.2) r.output r'.output

/-- Corresponding calls have corresponding effects. -/
structure Lockstep [Processor σ ω] [Processor τ ω] : Prop where
  spread : Processor.spread σ = Processor.spread τ
  deadline : ∀ {s t}, k.stage s t → Processor.deadline s = Processor.deadline t
  atEnd : ∀ {f g}, k.frame f g → f.isEndOfStream = g.isEndOfStream
  fault : ∀ {s t}, k.stage s t → ∀ message,
    k.frame (.error (Processor.name s) message true) (.error (Processor.name t) message true)
  start : ∀ {s t c d}, k.stage s t → k.conversation c d → ∀ (w : ω) now,
    (Processor.start s w c now).Matches k Eq (Processor.start t w d now)
  stop : ∀ {s t c d}, k.stage s t → k.conversation c d → ∀ (w : ω) now,
    (Processor.stop s w c now).Matches k Eq (Processor.stop t w d now)
  process : ∀ {s t c d f g}, k.stage s t → k.conversation c d → k.frame f g → ∀ (w : ω) now,
    (Processor.process s w c now f).Matches k (List.Forall₂ k.frame)
      (Processor.process t w d now g)
  expire : ∀ {s t c d}, k.stage s t → k.conversation c d → ∀ (w : ω) now,
    (Processor.expire s w c now).Matches k (List.Forall₂ k.frame) (Processor.expire t w d now)

end

/-! ## Lists of corresponding entries -/

section

variable {α β : Type} {R : α → β → Prop} {xs : List α} {ys : List β}

theorem corresponding_at (h : List.Forall₂ R xs ys) (i : Nat) : Option.Rel R xs[i]? ys[i]? := by
  induction h generalizing i with
  | nil => exact .none
  | cons hab _ ih =>
    cases i with
    | zero => exact .some hab
    | succ i => exact ih i

theorem corresponding_set (h : List.Forall₂ R xs ys) (i : Nat) {a : α} {b : β} (hab : R a b) :
    List.Forall₂ R (xs.set i a) (ys.set i b) := by
  induction h generalizing i with
  | nil => exact .nil
  | cons hcd htail ih =>
    cases i with
    | zero => exact .cons hab htail
    | succ i => exact .cons hcd (ih i)

theorem corresponding_snoc (h : List.Forall₂ R xs ys) {a : α} {b : β} (hab : R a b) :
    List.Forall₂ R (xs ++ [a]) (ys ++ [b]) :=
  List.rel_append h (.cons hab .nil)

theorem corresponding_eq {xs ys : List α} (h : List.Forall₂ Eq xs ys) : xs = ys := by
  rwa [List.forall₂_eq_eq_eq] at h

theorem corresponding_map {γ : Type} {f : α → γ} {g : β → γ} :
    List.Forall₂ (fun a b => f a = g b) xs ys ↔ xs.map f = ys.map g := by
  rw [← List.forall₂_eq_eq_eq, List.forall₂_map_left_iff, List.forall₂_map_right_iff]

end

theorem SameEnd.refl {α : Type} {R : α → α → Prop} (hR : ∀ a, R a a) (e : Except Fault α) :
    SameEnd R e e := by
  cases e with
  | ok a => exact .ok (hR a)
  | error fault => exact .error fault

namespace Station.Matches

variable {σ τ : Type} {k : Correspondence σ τ} {s : Station σ} {t : Station τ}

theorem isStopped (h : s.Matches k t) : s.isStopped = t.isStopped := by
  obtain ⟨stage, conversation, inbox, task⟩ := s
  obtain ⟨stage', conversation', inbox', task'⟩ := t
  have htask : task.Matches k task' := h.task
  cases htask <;> rfl

theorem admits (h : s.Matches k t) (capacity : Nat) : s.admits capacity = t.admits capacity := by
  rw [Station.admits, Station.admits, h.isStopped, h.inbox.length_eq]

theorem receives (h : s.Matches k t) {f g : Frame} (hfg : k.frame f g) :
    Station.Matches k { s with inbox := s.inbox ++ [f] } { t with inbox := t.inbox ++ [g] } :=
  { h with inbox := corresponding_snoc h.inbox hfg }

theorem turns (h : s.Matches k t) {task task' : Task} (htask : task.Matches k task') :
    Station.Matches k { s with task := task } { t with task := task' } :=
  { h with task := htask }

end Station.Matches

namespace Run.Matches

variable {σ τ ω : Type} {k : Correspondence σ τ} {r : Run σ ω} {r' : Run τ ω}
  {s : Station σ} {t : Station τ}

/-! ## Queues and turns -/

theorem time (h : r.Matches k r') : r.time = r'.time :=
  congrArg Instant.ofMillis h.now

theorem station_cases (h : r.Matches k r') (i : Nat) :
    r.stations[i]? = none ∧ r'.stations[i]? = none ∨
      ∃ s t, r.stations[i]? = some s ∧ r'.stations[i]? = some t ∧ s.Matches k t := by
  have hat := corresponding_at h.stations i
  cases hs : r.stations[i]? <;> cases ht : r'.stations[i]? <;> rw [hs, ht] at hat
  · exact .inl ⟨rfl, rfl⟩
  · cases hat
  · cases hat
  · cases hat with
    | some hst => exact .inr ⟨_, _, rfl, rfl, hst⟩

theorem update (h : r.Matches k r') (i : Nat) (hst : s.Matches k t) :
    (r.update i s).Matches k (r'.update i t) :=
  { h with stations := corresponding_set h.stations i hst }

theorem wake (h : r.Matches k r') (i : Nat) : (r.wake i).Matches k (r'.wake i) := by
  have hready := h.ready
  unfold Run.wake
  rw [← hready]
  split
  · exact h
  · exact { h with ready := rfl }

theorem wakeSender (h : r.Matches k r') (i : Nat) :
    (r.wakeSender i).Matches k (r'.wakeSender i) := by
  cases i with
  | zero => exact h
  | succ i =>
    rcases h.station_cases i with ⟨hs, ht⟩ | ⟨s, t, hs, ht, hst⟩
    · simp only [Run.wakeSender, hs, ht]
      exact h
    · obtain ⟨stage, conversation, inbox, task⟩ := s
      obtain ⟨stage', conversation', inbox', task'⟩ := t
      have htask : task.Matches k task' := hst.task
      simp only [Run.wakeSender, hs, ht]
      cases htask with
      | unstarted | waiting | stopped => exact h
      | delivering hframes =>
        cases hframes with
        | nil => exact h
        | cons => exact h.wake i

theorem inputEnded (h : r.Matches k r') (i : Nat) : r.inputEnded i = r'.inputEnded i := by
  cases i with
  | zero => exact congrArg (!·) h.inputOpen
  | succ i =>
    rcases h.station_cases i with ⟨hs, ht⟩ | ⟨s, t, hs, ht, hst⟩
    · simp only [Run.inputEnded, hs, ht]
      rfl
    · simp only [Run.inputEnded, hs, ht]
      exact hst.isStopped

theorem room (h : r.Matches k r') (i : Nat) : r.room i = r'.room i := by
  rcases h.station_cases (i + 1) with ⟨hs, ht⟩ | ⟨s, t, hs, ht, hst⟩
  · simp only [Run.room, hs, ht, h.reader, h.capacity]
  · simp only [Run.room, hs, ht, h.capacity, hst.admits]

theorem handOver (h : r.Matches k r') (i : Nat) {f g : Frame} (hfg : k.frame f g) :
    (r.handOver i f).Matches k (r'.handOver i g) := by
  rcases h.station_cases (i + 1) with ⟨hs, ht⟩ | ⟨s, t, hs, ht, hst⟩
  · simp only [Run.handOver, hs, ht]
    exact { h with
      output := corresponding_snoc h.output ⟨h.now, hfg⟩
      reader := congrArg Reader.offered h.reader }
  · simp only [Run.handOver, hs, ht]
    exact (h.update (i + 1) (hst.receives hfg)).wake (i + 1)

theorem halt (h : r.Matches k r') (i : Nat) (hst : s.Matches k t) :
    (r.halt i s).Matches k (r'.halt i t) := by
  have hsender := (h.update i (hst.turns .stopped)).wakeSender i
  simp only [Run.halt, hsender.stations.length_eq]
  split
  · exact hsender.wake (i + 1)
  · exact hsender

theorem wakeAll (h : r.Matches k r') (alarms : List (Nat × Nat)) :
    (alarms.foldl (fun r alarm => r.wake alarm.2) r).Matches k
      (alarms.foldl (fun r alarm => r.wake alarm.2) r') := by
  induction alarms generalizing r r' with
  | nil => exact h
  | cons a alarms ih => exact ih (h.wake a.2)

theorem entry (h : r.Matches k r') : r.entry = r'.entry := by
  rcases h.station_cases 0 with ⟨hs, ht⟩ | ⟨s, t, hs, ht, hst⟩
  · simp only [Run.entry, hs, ht]
  · simp only [Run.entry, hs, ht, h.inputOpen, h.capacity, hst.admits]

theorem posted (h : r.Matches k r') {f g : Frame} (hfg : k.frame f g) :
    (r.posted f).Matches k (r'.posted g) := by
  rcases h.station_cases 0 with ⟨hs, ht⟩ | ⟨s, t, hs, ht, hst⟩
  · simp only [Run.posted, hs, ht]
    exact h
  · simp only [Run.posted, hs, ht]
    exact (h.update 0 (hst.receives hfg)).wake 0

theorem post (h : r.Matches k r') {f g : Frame} (hfg : k.frame f g) :
    (r.post f).Matches k (r'.post g) := by
  unfold Run.post
  rw [← h.entry]
  cases r.entry with
  | accepted => exact h.posted hfg
  | full | closed => exact h

theorem defer (h : r.Matches k r') : r.defer.Matches k r'.defer := by
  unfold Run.defer
  rw [← h.ready]
  cases r.ready with
  | nil => exact h
  | cons i rest => exact { h with ready := rfl }

theorem read (h : r.Matches k r') (frames : Option Nat) :
    (r.read frames).Matches k (r'.read frames) := by
  have hread : ({ r with reader := r.reader.take frames } : Run σ ω).Matches k
      { r' with reader := r'.reader.take frames } :=
    { h with reader := congrArg (Reader.take · frames) h.reader }
  unfold Run.read
  rw [h.stations.length_eq]
  exact hread.wakeSender _

theorem closeOutput (h : r.Matches k r') : r.closeOutput.Matches k r'.closeOutput := by
  have hgone : ({ r with reader := .gone } : Run σ ω).Matches k { r' with reader := .gone } :=
    { h with reader := rfl }
  unfold Run.closeOutput
  rw [h.stations.length_eq]
  exact hgone.wakeSender _

theorem closeInput (h : r.Matches k r') : r.closeInput.Matches k r'.closeInput := by
  have hclosed : ({ r with inputOpen := false } : Run σ ω).Matches k { r' with inputOpen := false } :=
    { h with inputOpen := rfl }
  exact hclosed.wake 0

/-! ## Calls -/

variable [Processor σ ω] [Processor τ ω]

theorem stopStage (h : r.Matches k r') (hk : Lockstep (ω := ω) k) (hst : s.Matches k t)
    (atEnd : Bool) :
    (r.stopStage s atEnd).1.Matches k (r'.stopStage t atEnd).1 ∧
      (r.stopStage s atEnd).2.Matches k (r'.stopStage t atEnd).2 := by
  cases atEnd with
  | false => exact ⟨h, hst⟩
  | true =>
    have heffect := hk.stop hst.stage hst.conversation r.world r.time
    simp only [Run.stopStage, ← h.world, ← h.time, if_true]
    exact ⟨{ h with world := heffect.world },
      { hst with stage := heffect.stage, conversation := heffect.conversation }⟩

theorem emitted (hk : Lockstep (ω := ω) k) {a : σ} {b : τ} (hab : k.stage a b)
    {result result' : Except Fault (List Frame)}
    (h : SameEnd (List.Forall₂ k.frame) result result') :
    List.Forall₂ k.frame (emitted a result) (emitted b result') := by
  cases h with
  | ok hframes => exact hframes
  | error fault => exact .cons (hk.fault hab fault.message) .nil

theorem absorb (h : r.Matches k r') (hk : Lockstep (ω := ω) k) (i : Nat) (hst : s.Matches k t)
    {e : Effect σ ω} {e' : Effect τ ω} (he : e.Matches k (List.Forall₂ k.frame) e')
    (atEnd : Bool) : (r.absorb i s e atEnd).Matches k (r'.absorb i t e' atEnd) := by
  have hworld : ({ r with world := e.world } : Run σ ω).Matches k { r' with world := e'.world } :=
    { h with world := he.world }
  exact hworld.update i
    { hst with
      stage := he.stage
      conversation := he.conversation
      task := .delivering (emitted hk hst.stage he.result) atEnd }

theorem waits (h : r.Matches k r') (hk : Lockstep (ω := ω) k) (i : Nat) (hst : s.Matches k t)
    (hs : s.task = .waiting) (ht : t.task = .waiting) :
    (r.move i s).1.Matches k (r'.move i t).1 ∧ (r.move i s).2 = (r'.move i t).2 := by
  obtain ⟨stage, conversation, inbox, task⟩ := s
  obtain ⟨stage', conversation', inbox', task'⟩ := t
  obtain rfl : task = .waiting := hs
  obtain rfl : task' = .waiting := ht
  have hinbox : List.Forall₂ k.frame inbox inbox' := hst.inbox
  cases hinbox with
  | nil =>
    have hdeadline : Processor.deadline stage = Processor.deadline stage' := hk.deadline hst.stage
    simp only [Run.move, ← h.inputEnded i, ← hdeadline, ← h.now, ← h.world, ← h.time]
    split
    · exact ⟨h.halt i hst, rfl⟩
    · cases Processor.deadline stage with
      | none => exact ⟨h, rfl⟩
      | some deadline =>
        by_cases hdue : deadline.tick ≤ r.now
        · simp only [hdue, if_true]
          have hexpire := hk.expire hst.stage hst.conversation r.world r.time
          exact ⟨h.absorb hk i hst hexpire false, trivial⟩
        · simp only [hdue, if_false]
          exact ⟨{ h with
            world := rfl
            now := rfl
            alarms := congrArg (· ++ [(deadline.tick, i)]) h.alarms }, trivial⟩
  | @cons f g fs gs hfg hrest =>
    have hst' : Station.Matches k ⟨stage, conversation, fs, .waiting⟩
        ⟨stage', conversation', gs, .waiting⟩ := { hst with inbox := hrest }
    have htaken := (h.update i hst').wakeSender i
    simp only [Run.move, ← htaken.world, ← htaken.time, ← hk.atEnd hfg]
    exact ⟨htaken.absorb hk i hst' (hk.process hst.stage hst.conversation hfg _ _) _, trivial⟩

theorem delivers (h : r.Matches k r') (hk : Lockstep (ω := ω) k) (i : Nat) (hst : s.Matches k t)
    {frames frames' : List Frame} (hframes : List.Forall₂ k.frame frames frames') {atEnd : Bool}
    (hs : s.task = .delivering frames atEnd) (ht : t.task = .delivering frames' atEnd) :
    (r.move i s).1.Matches k (r'.move i t).1 ∧ (r.move i s).2 = (r'.move i t).2 := by
  obtain ⟨hrun, hstation⟩ := h.stopStage hk hst atEnd
  cases hframes with
  | nil =>
    simp only [Run.move, hs, ht]
    exact ⟨hrun.update i (hstation.turns .waiting), trivial⟩
  | @cons f g fs gs hfg hrest =>
    simp only [Run.move, hs, ht, ← h.room i]
    cases r.room i with
    | accepted => exact ⟨(h.handOver i hfg).update i (hst.turns (.delivering hrest atEnd)), rfl⟩
    | full => exact ⟨h, rfl⟩
    | closed => exact ⟨hrun.halt i hstation, rfl⟩

theorem move (h : r.Matches k r') (hk : Lockstep (ω := ω) k) (i : Nat) (hst : s.Matches k t) :
    (r.move i s).1.Matches k (r'.move i t).1 ∧ (r.move i s).2 = (r'.move i t).2 := by
  obtain ⟨stage, conversation, inbox, task⟩ := s
  obtain ⟨stage', conversation', inbox', task'⟩ := t
  have htask : task.Matches k task' := hst.task
  cases htask with
  | stopped => exact ⟨h, rfl⟩
  | waiting => exact h.waits hk i hst rfl rfl
  | delivering hframes atEnd => exact h.delivers hk i hst hframes rfl rfl
  | unstarted =>
    have heffect := hk.start hst.stage hst.conversation r.world r.time
    have hworld : ({ r with world := (Processor.start stage r.world conversation r.time).world } :
        Run σ ω).Matches k
          { r' with world := (Processor.start stage' r.world conversation' r.time).world } :=
      { h with world := heffect.world }
    simp only [Run.move, ← h.world, ← h.time]
    exact ⟨hworld.update i
      { hst with
        stage := heffect.stage
        conversation := heffect.conversation
        task := .waiting }, trivial⟩

/-! ## Steps -/

theorem step (h : r.Matches k r') (hk : Lockstep (ω := ω) k) :
    Option.Rel (Run.Matches k) r.step r'.step := by
  have hready := h.ready
  cases hr : r.ready with
  | nil =>
    rw [hr] at hready
    rw [r.step_eq_none_iff.mpr hr, r'.step_eq_none_iff.mpr hready.symm]
    exact .none
  | cons i rest =>
    rw [hr] at hready
    have hhushed : (r.hushed i).Matches k (r'.hushed i) :=
      { h with alarms := congrArg (List.filter fun a : Nat × Nat => a.2 != i) h.alarms }
    rcases h.station_cases i with ⟨hs, ht⟩ | ⟨s, t, hs, ht, hst⟩
    · simp only [Run.step, hr, ← hready, hs, ht]
      exact .some { hhushed with ready := rfl }
    · rw [step_eq hr hs, step_eq hready.symm ht]
      obtain ⟨hmoved, hturn⟩ := hhushed.move hk i hst
      rw [← hturn]
      apply Option.Rel.some
      unfold passed
      split
      · exact hmoved
      · exact { hmoved with ready := congrArg (List.drop 1) hmoved.ready }

theorem load (hk : Lockstep (ω := ω) k) (now : Nat) {stations : List (Station σ)}
    {stations' : List (Station τ)} (h : List.Forall₂ (Station.Matches k) stations stations') :
    Station.load now stations = Station.load now stations' := by
  induction h with
  | nil => rfl
  | @cons s t later later' hst _ ih =>
    obtain ⟨stage, conversation, inbox, task⟩ := s
    obtain ⟨stage', conversation', inbox', task'⟩ := t
    have hdeadline : Processor.deadline stage = Processor.deadline stage' := hk.deadline hst.stage
    have hstopped := hst.isStopped
    have hinbox : inbox.length = inbox'.length := hst.inbox.length_eq
    have htask : task.Matches k task' := hst.task
    simp only [Station.load, ih, hk.spread, hdeadline, hstopped, hinbox]
    cases htask with
    | unstarted | waiting | stopped => rfl
    | delivering hframes =>
      have hframes' := hframes.length_eq
      simp only [hframes']

theorem settleFor (h : r.Matches k r') (hk : Lockstep (ω := ω) k) (fuel : Nat) :
    (settleFor fuel r).Matches k (settleFor fuel r') := by
  induction fuel generalizing r r' with
  | zero => exact h
  | succ fuel ih =>
    have hstep := h.step hk
    unfold Run.settleFor
    cases hr : r.step <;> cases hr' : r'.step <;> rw [hr, hr'] at hstep
    · exact h
    · cases hstep
    · cases hstep
    · cases hstep with
      | some hnext => exact ih hnext

theorem settle (h : r.Matches k r') (hk : Lockstep (ω := ω) k) : r.settle.Matches k r'.settle := by
  have hbudget : r.budget = r'.budget := by
    rw [budget, budget, h.ready, h.now, load hk _ h.stations]
  rw [Run.settle, Run.settle, hbudget]
  exact h.settleFor hk _

/-! ## What is done to a run -/

theorem ring (h : r.Matches k r') (hk : Lockstep (ω := ω) k) (ms : Nat) :
    (r.ring ms).Matches k (r'.ring ms) := by
  have hwoken := h.wakeAll (r.alarms.filter (·.1 ≤ ms))
  unfold Run.ring Run.rung
  rw [← h.alarms]
  exact settle { hwoken with now := rfl } hk

theorem passUntil (h : r.Matches k r') (hk : Lockstep (ω := ω) k) (target left : Nat) :
    (passUntil target left r).Matches k (passUntil target left r') := by
  have hclock : ({ r with now := target } : Run σ ω).Matches k { r' with now := target } :=
    { h with now := rfl }
  induction left generalizing r r' with
  | zero => exact hclock
  | succ left ih =>
    have hnext : r.nextAlarm = r'.nextAlarm := by rw [nextAlarm, nextAlarm, h.alarms]
    simp only [Run.passUntil, ← hnext]
    cases r.nextAlarm with
    | none => exact hclock
    | some ms =>
      by_cases hle : ms ≤ target
      · simp only [hle, if_true]
        have hrung := h.ring hk ms
        exact ih hrung { hrung with now := rfl }
      · simp only [hle, if_false]
        exact hclock

theorem sleep (h : r.Matches k r') (hk : Lockstep (ω := ω) k) (ms : Nat) :
    (r.sleep ms).Matches k (r'.sleep ms) := by
  rw [Run.sleep, Run.sleep, ← h.now]
  exact (h.settle hk).passUntil hk _ ms

theorem turn (h : r.Matches k r') (hk : Lockstep (ω := ω) k) : r.turn.Matches k r'.turn := by
  have hstep := h.step hk
  unfold Run.turn
  cases hr : r.step <;> cases hr' : r'.step <;> rw [hr, hr'] at hstep
  · exact h
  · cases hstep
  · cases hstep
  · cases hstep with
    | some hnext => exact hnext

theorem start (hk : Lockstep (ω := ω) k) {chain : Chain σ ω} {chain' : Chain τ ω}
    (hstages : List.Forall₂ k.stage chain.stages chain'.stages)
    (hworld : chain.world = chain'.world) {c d : Conversation} (hcd : k.conversation c d)
    (capacity : Nat) : (Run.start chain c capacity).Matches k (Run.start chain' d capacity) := by
  have hstations : List.Forall₂ (Station.Matches k)
      (chain.stages.map fun stage => (⟨stage, c, [], .unstarted⟩ : Station σ))
      (chain'.stages.map fun stage => ⟨stage, d, [], .unstarted⟩) := by
    apply List.rel_map _ hstages
    intro s t hst
    exact ⟨hst, hcd, .nil, .unstarted⟩
  have hready : List.range chain.stages.length = List.range chain'.stages.length :=
    congrArg List.range hstages.length_eq
  exact settle ⟨hstations, hworld, rfl, rfl, rfl, rfl, hready, rfl, .nil⟩ hk

end Run.Matches

inductive Deed.Matches {σ τ : Type} (k : Correspondence σ τ) : Deed → Deed → Prop
  | send {f g : Frame} (h : k.frame f g) : Matches k (.send f) (.send g)
  | post {f g : Frame} (h : k.frame f g) : Matches k (.post f) (.post g)
  | same {d : Deed} (h : d.frame = none) : Matches k d d

theorem Deed.Matches.refl {σ τ : Type} {k : Correspondence σ τ} (hframe : ∀ f, k.frame f f)
    (d : Deed) : d.Matches k d := by
  cases d with
  | send f => exact .send (hframe f)
  | post f => exact .post (hframe f)
  | _ => exact .same rfl

namespace Run.Matches

variable {σ τ ω : Type} {k : Correspondence σ τ} [Processor σ ω] [Processor τ ω] {r : Run σ ω}
  {r' : Run τ ω}

theorem deed (h : r.Matches k r') (hk : Lockstep (ω := ω) k) {d d' : Deed} (hd : d.Matches k d') :
    (r.deed d).Matches k (r'.deed d') := by
  cases hd with
  | send hfg => exact (h.post hfg).settle hk
  | post hfg => exact h.post hfg
  | same hnone =>
    cases d with
    | send | post => cases hnone
    | pause ms => exact h.sleep hk ms
    | turn => exact h.turn hk
    | defer => exact h.defer
    | read frames => exact h.read frames
    | closeOutput => exact h.closeOutput
    | closeInput => exact h.closeInput

theorem perform (h : r.Matches k r') (hk : Lockstep (ω := ω) k) {deeds deeds' : List Deed}
    (hdeeds : List.Forall₂ (Deed.Matches k) deeds deeds') :
    (r.perform deeds).Matches k (r'.perform deeds') := by
  induction hdeeds generalizing r r' with
  | nil => exact h
  | cons hd _ ih => exact ih (h.deed hk hd)

theorem answers (h : r.Matches k r') (hk : Lockstep (ω := ω) k) {deeds deeds' : List Deed}
    (hdeeds : List.Forall₂ (Deed.Matches k) deeds deeds') :
    r.answers deeds = r'.answers deeds' := by
  induction hdeeds generalizing r r' with
  | nil => rfl
  | cons hd _ ih =>
    have hlater := ih (h.deed hk hd)
    rw [Run.answers, Run.answers, hlater, h.entry]
    cases hd <;> rfl

end Run.Matches

/-! ## Frame by frame -/

section

variable {σ τ ω : Type} {k : Correspondence σ τ} [Processor σ ω] [Processor τ ω]

theorem SameEnd.append {R : Frame → Frame → Prop} {out out' : List Frame}
    (hout : List.Forall₂ R out out') {later later' : Except Fault (List Frame)}
    (h : SameEnd (List.Forall₂ R) later later') :
    SameEnd (List.Forall₂ R) (later.map (out ++ ·)) (later'.map (out' ++ ·)) := by
  cases h with
  | ok hframes => exact .ok (List.rel_append hout hframes)
  | error fault => exact .error fault

theorem feed_matches (hk : Lockstep (ω := ω) k) {frames frames' : List Frame}
    (hframes : List.Forall₂ k.frame frames frames') {s : σ} {t : τ} (hst : k.stage s t)
    {c d : Conversation} (hcd : k.conversation c d) (w : ω) (now : Instant) :
    (feed s w c now frames).Matches k (List.Forall₂ k.frame) (feed t w d now frames') := by
  induction hframes generalizing s t c d w with
  | nil => exact ⟨hst, rfl, hcd, .ok .nil⟩
  | @cons f g fs gs hfg _ ih =>
    have heffect := hk.process hst hcd hfg w now
    have hresult := heffect.result
    simp only [feed]
    cases hs : (Processor.process s w c now f).result <;>
      cases ht : (Processor.process t w d now g).result <;> rw [hs, ht] at hresult
    · exact heffect
    · cases hresult
    · cases hresult
    · cases hresult with
      | ok hout =>
        rw [← heffect.world]
        have hlater := ih heffect.stage heffect.conversation
          (Processor.process s w c now f).world
        exact { hlater with result := hlater.result.append hout }

theorem pass_matches (hk : Lockstep (ω := ω) k) {stages : List σ} {stages' : List τ}
    (hstages : List.Forall₂ k.stage stages stages') {frames frames' : List Frame}
    (hframes : List.Forall₂ k.frame frames frames') {c d : Conversation}
    (hcd : k.conversation c d) (w : ω) (now : Instant) :
    (pass stages w c now frames).Matches k (pass stages' w d now frames') := by
  induction hstages generalizing frames frames' c d w with
  | nil => exact ⟨.nil, rfl, hcd, .ok hframes⟩
  | @cons s t later later' hst hlater ih =>
    have heffect := feed_matches hk hframes hst hcd w now
    have hresult := heffect.result
    simp only [pass]
    cases hs : (feed s w c now frames).result <;>
      cases ht : (feed t w d now frames').result <;> rw [hs, ht] at hresult
    · cases hresult with
      | error =>
        exact ⟨.cons heffect.stage hlater, heffect.world, heffect.conversation, .error _⟩
    · cases hresult
    · cases hresult
    · cases hresult with
      | ok hout =>
        rw [← heffect.world]
        have hpass := ih hout heffect.conversation (feed s w c now frames).world
        exact { hpass with stages := .cons heffect.stage hpass.stages }

end

end BargeIn.Pipeline
