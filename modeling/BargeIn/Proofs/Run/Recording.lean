import BargeIn.Proofs.Run.Lockstep

/-!
# Stages that record their calls

A stage can keep a record of the calls that are made of it, each with what came of it. A chain of
such stages runs as the chain of the stages themselves does.
-/

set_option autoImplicit false

namespace BargeIn.Pipeline

/-- A call of a stage and its result. A stage that takes a frame or serves its deadline is kept as
it was before the call. -/
inductive Entry (σ : Type)
  | started (result : Except Fault Unit)
  | stopped (result : Except Fault Unit)
  | took (stage : σ) (frame : Frame) (result : Except Fault (List Frame))
  | served (stage : σ) (result : Except Fault (List Frame))

structure Recorder (σ : Type) where
  stage : σ
  record : List (Entry σ) := []

def Effect.recorded {σ ω α : Type} (e : Effect σ ω α) (record : List (Entry σ)) :
    Effect (Recorder σ) ω α :=
  ⟨⟨e.stage, record⟩, e.world, e.conversation, e.result⟩

section

variable {σ : Type}

def Entry.frame : Entry σ → Option Frame
  | .took _ f _ => some f
  | _ => none

def Recorder.received (s : Recorder σ) : List Frame :=
  s.record.filterMap Entry.frame

def Station.plain (s : Station (Recorder σ)) : Station σ :=
  ⟨s.stage.stage, s.conversation, s.inbox, s.task⟩

end

variable {σ ω : Type}

def Chain.recorded (chain : Chain σ ω) : Chain (Recorder σ) ω :=
  ⟨chain.name, chain.stages.map ({ stage := · }), chain.world⟩

def Run.plain (r : Run (Recorder σ) ω) : Run σ ω where
  stations := r.stations.map Station.plain
  world := r.world
  capacity := r.capacity
  now := r.now
  inputOpen := r.inputOpen
  reader := r.reader
  ready := r.ready
  alarms := r.alarms
  output := r.output

/-! ## The stages themselves -/

/-- A recording stage stands for the stage itself. -/
def recording (σ : Type) : Correspondence (Recorder σ) σ :=
  ⟨fun s t => s.stage = t, Eq, Eq⟩

theorem Station.matches_plain (s : Station (Recorder σ)) : s.Matches (recording σ) s.plain := by
  refine ⟨rfl, rfl, List.forall₂_same.mpr fun _ _ => rfl, ?_⟩
  show Task.Matches (recording σ) s.task s.task
  cases s.task with
  | delivering frames atEnd => exact .delivering (List.forall₂_same.mpr fun _ _ => rfl) atEnd
  | unstarted => exact .unstarted
  | waiting => exact .waiting
  | stopped => exact .stopped

theorem Station.Matches.eq_plain {s : Station (Recorder σ)} {t : Station σ}
    (h : s.Matches (recording σ) t) : s.plain = t := by
  obtain ⟨stage, conversation, inbox, task⟩ := s
  obtain ⟨stage', conversation', inbox', task'⟩ := t
  obtain ⟨hstage, hconversation, hinbox, htask⟩ := h
  obtain rfl : stage.stage = stage' := hstage
  obtain rfl : conversation = conversation' := hconversation
  obtain rfl : inbox = inbox' := corresponding_eq hinbox
  have htask : Task.Matches (recording σ) task task' := htask
  cases htask with
  | delivering hframes =>
    obtain rfl := corresponding_eq hframes
    rfl
  | _ => rfl

namespace Run

variable {r : Run (Recorder σ) ω} {u : Run σ ω}

theorem matches_plain (r : Run (Recorder σ) ω) : r.Matches (recording σ) r.plain := by
  refine ⟨?_, rfl, rfl, rfl, rfl, rfl, rfl, rfl, List.forall₂_same.mpr fun _ _ => ⟨rfl, rfl⟩⟩
  rw [plain, List.forall₂_map_right_iff, List.forall₂_same]
  exact fun s _ => s.matches_plain

theorem Matches.eq_plain (h : r.Matches (recording σ) u) : r.plain = u := by
  have hstations : r.stations.map Station.plain = u.stations :=
    corresponding_eq (List.forall₂_map_left_iff.mpr (h.stations.imp fun _ _ hst => hst.eq_plain))
  have houtput : r.output = u.output :=
    corresponding_eq (h.output.imp fun _ _ hab => Prod.ext hab.1 hab.2)
  rw [plain, hstations, h.world, h.capacity, h.now, h.inputOpen, h.reader, h.ready, h.alarms,
    houtput]

end Run

/-! ## Calls -/

variable [Processor σ ω]

def Entry.sent : Entry σ → List Frame
  | .took _ _ (.ok frames) | .served _ (.ok frames) => frames
  | .took stage _ (.error fault) | .served stage (.error fault) =>
    [.error (Processor.name stage) fault.message true]
  | .started _ | .stopped _ => []

theorem Entry.took_sent (stage : σ) (f : Frame) (result : Except Fault (List Frame)) :
    (Entry.took stage f result).sent = Run.emitted stage result := by
  cases result <;> rfl

theorem Entry.served_sent (stage : σ) (result : Except Fault (List Frame)) :
    (Entry.served stage result).sent = Run.emitted stage result := by
  cases result <;> rfl

def Recorder.sent (s : Recorder σ) : List Frame :=
  s.record.flatMap Entry.sent

instance : Processor (Recorder σ) ω where
  spread := Processor.spread σ
  name s := Processor.name s.stage
  description s := Processor.description s.stage
  deadline s := Processor.deadline s.stage
  start s w c now :=
    let effect := Processor.start s.stage w c now
    effect.recorded (s.record ++ [.started effect.result])
  stop s w c now :=
    let effect := Processor.stop s.stage w c now
    effect.recorded (s.record ++ [.stopped effect.result])
  process s w c now f :=
    let effect := Processor.process s.stage w c now f
    effect.recorded (s.record ++ [.took s.stage f effect.result])
  expire s w c now :=
    let effect := Processor.expire s.stage w c now
    effect.recorded (s.record ++ [.served s.stage effect.result])

instance [Tame σ] : Tame (Recorder σ) where
  process_few s w c now f out h := Tame.process_few s.stage w c now f out h
  expire_few s w c now out h := Tame.expire_few s.stage w c now out h
  expire_served s w c now d hd := Tame.expire_served s.stage w c now d hd

/-! ## Keeping records makes no difference -/

theorem recording_lockstep : Lockstep (ω := ω) (recording σ) where
  spread := rfl
  deadline := by
    rintro s _ rfl
    rfl
  atEnd := congrArg _
  fault := by
    rintro s _ rfl message
    rfl
  start := by
    rintro s _ c _ rfl rfl w now
    exact ⟨rfl, rfl, rfl, .refl (fun _ => rfl) _⟩
  stop := by
    rintro s _ c _ rfl rfl w now
    exact ⟨rfl, rfl, rfl, .refl (fun _ => rfl) _⟩
  process := by
    rintro s _ c _ f _ rfl rfl rfl w now
    exact ⟨rfl, rfl, rfl, .refl (fun _ => List.forall₂_same.mpr fun _ _ => rfl) _⟩
  expire := by
    rintro s _ c _ rfl rfl w now
    exact ⟨rfl, rfl, rfl, .refl (fun _ => List.forall₂_same.mpr fun _ _ => rfl) _⟩

namespace Run

variable (r : Run (Recorder σ) ω)

theorem plain_start (chain : Chain σ ω) (conversation : Conversation) (capacity : Nat) :
    (start chain.recorded conversation capacity).plain = start chain conversation capacity := by
  have hstages : List.Forall₂ (recording σ).stage chain.recorded.stages chain.stages := by
    rw [Chain.recorded, List.forall₂_map_left_iff, List.forall₂_same]
    exact fun _ _ => rfl
  exact (Matches.start recording_lockstep hstages rfl rfl capacity).eq_plain

theorem plain_perform (deeds : List Deed) : (r.perform deeds).plain = r.plain.perform deeds := by
  have hdeeds : List.Forall₂ (Deed.Matches (recording σ)) deeds deeds :=
    List.forall₂_same.mpr fun d _ => .refl (fun _ => rfl) d
  exact (r.matches_plain.perform recording_lockstep hdeeds).eq_plain

theorem plain_taken (deeds : List Deed) : r.plain.taken deeds = r.taken deeds := by
  induction deeds generalizing r with
  | nil => rfl
  | cons d deeds ih =>
    have hlater := ih (r.deed d)
    rw [show (r.deed d).plain = r.plain.deed d from r.plain_perform [d]] at hlater
    rw [taken, taken, hlater, r.matches_plain.entry]

theorem plain_closeInput : r.closeInput.plain = r.plain.closeInput :=
  r.plain_perform [.closeInput]

theorem plain_settle : r.settle.plain = r.plain.settle :=
  (r.matches_plain.settle recording_lockstep).eq_plain

end Run

end BargeIn.Pipeline
