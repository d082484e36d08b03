import BargeIn.Pipeline.Run

/-!
# What a task does in one move

Each move of a task is of one of nine kinds, with the conditions under which it is made and all
that it changes. Whatever holds of a run is shown for each kind. Moves that make room for a frame,
bring one or end a task wake the tasks that may go on because of it.
-/

set_option autoImplicit false

namespace BargeIn.Pipeline.Run

variable {σ ω : Type}

/-! ## Waking tasks -/

def roused (r : Run σ ω) (woken : List Nat) : Run σ ω :=
  { r with ready := r.ready ++ woken }

/-- At most `bound` tasks join those that can go on, and all that are wanted are among these. -/
structure Wakes (r : Run σ ω) (bound : Nat) (wanted : Nat → Prop) (woken : List Nat) : Prop where
  few : woken.length ≤ bound
  awake : ∀ j, wanted j → j ∈ r.ready ++ woken

theorem wake_eq (r : Run σ ω) (i : Nat) :
    ∃ woken, r.wake i = r.roused woken ∧ r.Wakes 1 (· = i) woken := by
  unfold wake
  split
  case isTrue h =>
    refine ⟨[], by simp [roused], by simp, ?_⟩
    rintro j rfl
    simpa using h
  case isFalse => exact ⟨[i], rfl, by simp, by simp⟩

def WaitsForRoom (s : Station σ) : Prop := ∃ f fs atEnd, s.task = .delivering (f :: fs) atEnd

def IsSender (r : Run σ ω) (i j : Nat) : Prop :=
  i = j + 1 ∧ ∃ s, r.stations[j]? = some s ∧ WaitsForRoom s

theorem wakeSender_eq (r : Run σ ω) (i : Nat) :
    ∃ woken, r.wakeSender i = r.roused woken ∧ r.Wakes 1 (r.IsSender i) woken := by
  cases i with
  | zero => exact ⟨[], by simp [wakeSender, roused], by simp, by simp [IsSender]⟩
  | succ i =>
    simp only [wakeSender]
    split
    case h_1 hs =>
      obtain ⟨woken, hw, hwakes⟩ := r.wake_eq i
      refine ⟨woken, hw, hwakes.few, ?_⟩
      rintro j ⟨hj, _⟩
      obtain rfl : i = j := Nat.succ.inj hj
      exact hwakes.awake i rfl
    case h_2 hs =>
      refine ⟨[], by simp [roused], by simp, ?_⟩
      rintro j ⟨hj, s, hsj, f, fs, atEnd, ht⟩
      obtain rfl : i = j := Nat.succ.inj hj
      obtain ⟨stage, conversation, inbox, task⟩ := s
      obtain rfl : task = .delivering (f :: fs) atEnd := ht
      exact absurd hsj (hs _ _ _ _ _ _)

theorem isSender_update (r : Run σ ω) (i j : Nat) (s : Station σ) :
    (r.update i s).IsSender i j ↔ r.IsSender i j := by
  unfold IsSender update
  apply and_congr_right
  rintro rfl
  rw [List.getElem?_set_ne (Nat.succ_ne_self j)]

theorem halt_eq (r : Run σ ω) (i : Nat) (s : Station σ) :
    ∃ woken, r.halt i s = (r.update i { s with task := .stopped }).roused woken ∧
      r.Wakes 2 (fun j => r.IsSender i j ∨ j = i + 1 ∧ j < r.stations.length) woken := by
  obtain ⟨woken, hw, hwakes⟩ := (r.update i { s with task := .stopped }).wakeSender_eq i
  have hsender : ∀ j, r.IsSender i j → j ∈ r.ready ++ woken :=
    fun j hj => hwakes.awake j ((r.isSender_update i j _).mpr hj)
  unfold halt
  dsimp only
  rw [hw]
  split
  case isTrue hi =>
    obtain ⟨woken', hw', hwakes'⟩ :=
      ((r.update i { s with task := .stopped }).roused woken).wake_eq (i + 1)
    refine ⟨woken ++ woken', ?_, ?_, ?_⟩
    · rw [hw']
      simp [roused]
    · have := hwakes.few
      have := hwakes'.few
      rw [List.length_append]
      omega
    · rw [← List.append_assoc]
      rintro j (hj | ⟨rfl, _⟩)
      · exact List.mem_append_left woken' (hsender j hj)
      · exact hwakes'.awake _ rfl
  case isFalse hi =>
    refine ⟨woken, rfl, Nat.le_succ_of_le hwakes.few, ?_⟩
    rintro j (hj | ⟨rfl, hj⟩)
    · exact hsender j hj
    · exact absurd (by simpa [roused, update] using hj) hi

theorem admits_accepted {s : Station σ} {capacity : Nat} (h : s.admits capacity = .accepted) :
    s.isStopped = false ∧ s.inbox.length < capacity := by
  unfold Station.admits at h
  split at h
  case isTrue => cases h
  case isFalse hs =>
    split at h
    case isTrue hl => exact ⟨Bool.eq_false_iff.mpr hs, hl⟩
    case isFalse => cases h

theorem room_accepted {r : Run σ ω} {i : Nat} (h : r.room i = .accepted) :
    (r.stations[i + 1]? = none ∧ r.reader.admits r.capacity = .accepted) ∨
      ∃ next, r.stations[i + 1]? = some next ∧ next.isStopped = false ∧
        next.inbox.length < r.capacity := by
  unfold room at h
  split at h
  case h_1 hn => exact .inl ⟨hn, h⟩
  case h_2 next hn => exact .inr ⟨next, hn, admits_accepted h⟩

/-- What no move changes, and what a move leaves of the turns and the alarms. -/
structure Leaves (r v : Run σ ω) : Prop where
  now : v.now = r.now
  capacity : v.capacity = r.capacity
  input : v.inputOpen = r.inputOpen
  reader : v.reader = r.reader ∨ v.reader = r.reader.offered
  length : v.stations.length = r.stations.length
  turns : ∃ woken, v.ready = r.ready ++ woken
  alarms : ∀ a ∈ v.alarms, a ∈ r.alarms ∨ r.now < a.1

variable [Processor σ ω]

/-! ## Moves -/

def Due (r : Run σ ω) (stage : σ) : Prop :=
  ∃ deadline, Processor.deadline stage = some deadline ∧ deadline.tick ≤ r.now

def stopped (r : Run σ ω) (s : Station σ) (atEnd : Bool) : Effect σ ω Unit :=
  if atEnd then Processor.stop s.stage r.world s.conversation r.time
  else ⟨s.stage, r.world, s.conversation, .ok ()⟩

def told (s : Station σ) (effect : Effect σ ω Unit) (task : Task) : Station σ :=
  { s with stage := effect.stage, conversation := effect.conversation, task }

/-- The station with the effect of a call. -/
def called (s : Station σ) (effect : Effect σ ω) (inbox : List Frame) (atEnd : Bool) :
    Station σ :=
  { stage := effect.stage
    conversation := effect.conversation
    inbox
    task := .delivering (emitted s.stage effect.result) atEnd }

inductive Moves (r : Run σ ω) (i : Nat) (s : Station σ) : Run σ ω → Bool → Prop
  | stays (h : s.task = .stopped ∨ WaitsForRoom s ∧ r.room i = .full) : Moves r i s r false
  | begins (h : s.task = .unstarted) : Moves r i s
      ({ r with world := (Processor.start s.stage r.world s.conversation r.time).world }.update i
        (told s (Processor.start s.stage r.world s.conversation r.time) .waiting)) true
  | takes {f : Frame} {fs : List Frame} {woken : List Nat} (h : s.task = .waiting)
      (hf : s.inbox = f :: fs) (hw : r.Wakes 1 (r.IsSender i) woken) : Moves r i s
      (({ r with world :=
          (Processor.process s.stage r.world s.conversation r.time f).world }.update i
        (called s (Processor.process s.stage r.world s.conversation r.time f) fs
          f.isEndOfStream)).roused woken) true
  | expires (h : s.task = .waiting) (hf : s.inbox = []) (he : r.inputEnded i = false)
      (hd : r.Due s.stage) : Moves r i s
      ({ r with world := (Processor.expire s.stage r.world s.conversation r.time).world }.update i
        (called s (Processor.expire s.stage r.world s.conversation r.time) [] false)) true
  | sleeps (h : s.task = .waiting) (hf : s.inbox = []) (he : r.inputEnded i = false)
      (hd : ¬r.Due s.stage) : Moves r i s
      { r with alarms :=
        r.alarms ++ (Processor.deadline s.stage).toList.map fun d => (d.tick, i) } false
  | hands {f : Frame} {fs : List Frame} {atEnd : Bool} {next : Station σ} {woken : List Nat}
      (h : s.task = .delivering (f :: fs) atEnd) (hn : r.stations[i + 1]? = some next)
      (hs : next.isStopped = false) (hr : next.inbox.length < r.capacity)
      (hw : r.Wakes 1 (· = i + 1) woken) : Moves r i s
      (((r.update (i + 1) { next with inbox := next.inbox ++ [f] }).update i
        { s with task := .delivering fs atEnd }).roused woken) true
  | emits {f : Frame} {fs : List Frame} {atEnd : Bool} (h : s.task = .delivering (f :: fs) atEnd)
      (hn : r.stations[i + 1]? = none) (ho : r.reader.admits r.capacity = .accepted) : Moves r i s
      ({ r with output := r.output ++ [(r.now, f)], reader := r.reader.offered }.update i
        { s with task := .delivering fs atEnd }) true
  | returns {atEnd : Bool} (h : s.task = .delivering [] atEnd) : Moves r i s
      ({ r with world := (r.stopped s atEnd).world }.update i
        (told s (r.stopped s atEnd) .waiting)) true
  | halts {atEnd : Bool} {woken : List Nat}
      (h : s.task = .waiting ∧ s.inbox = [] ∧ r.inputEnded i = true ∧ atEnd = false ∨
        (∃ f fs, s.task = .delivering (f :: fs) atEnd) ∧ r.room i = .closed)
      (hw : r.Wakes 2 (fun j => r.IsSender i j ∨ j = i + 1 ∧ j < r.stations.length) woken) :
      Moves r i s
      (({ r with world := (r.stopped s atEnd).world }.update i
        (told s (r.stopped s atEnd) .stopped)).roused woken) false

theorem Moves.leaves {r v : Run σ ω} {i : Nat} {s : Station σ} {goesOn : Bool}
    (hm : Moves r i s v goesOn) : r.Leaves v := by
  have hset : ∀ (stations : List (Station σ)) j t, (stations.set j t).length = stations.length :=
    fun _ _ _ => List.length_set
  cases hm with
  | stays => exact ⟨rfl, rfl, rfl, .inl rfl, rfl, ⟨[], by simp⟩, fun a ha => .inl ha⟩
  | begins | expires | returns =>
    exact ⟨rfl, rfl, rfl, .inl rfl, hset _ _ _, ⟨[], by simp [update]⟩, fun a ha => .inl ha⟩
  | emits =>
    exact ⟨rfl, rfl, rfl, .inr rfl, hset _ _ _, ⟨[], by simp [update]⟩, fun a ha => .inl ha⟩
  | takes | halts => exact ⟨rfl, rfl, rfl, .inl rfl, hset _ _ _, ⟨_, rfl⟩, fun a ha => .inl ha⟩
  | hands =>
    exact ⟨rfl, rfl, rfl, .inl rfl, (hset _ _ _).trans (hset _ _ _), ⟨_, rfl⟩,
      fun a ha => .inl ha⟩
  | sleeps h hf he hd =>
    refine ⟨rfl, rfl, rfl, .inl rfl, rfl, ⟨[], by simp⟩, ?_⟩
    intro a ha
    refine (List.mem_append.mp ha).imp_right ?_
    intro ha
    obtain ⟨d, hdeadline, rfl⟩ := List.mem_map.mp ha
    exact Nat.not_le.mp fun hle => hd ⟨d, Option.mem_toList.mp hdeadline, hle⟩

theorem stopStage_eq (r : Run σ ω) (s : Station σ) (atEnd : Bool) :
    r.stopStage s atEnd =
      ({ r with world := (r.stopped s atEnd).world }, told s (r.stopped s atEnd) s.task) := by
  unfold stopStage stopped
  cases atEnd <;> rfl

theorem waiting_moves (r : Run σ ω) (i : Nat) (s : Station σ) (h : s.task = .waiting)
    (hf : s.inbox = []) : Moves r i s (r.move i s).1 (r.move i s).2 := by
  simp only [move, h, hf]
  cases he : r.inputEnded i with
  | true =>
    obtain ⟨woken, hw, hwakes⟩ := r.halt_eq i s
    simp only [if_true, hw]
    have hm := Moves.halts (.inl ⟨h, hf, he, rfl⟩) hwakes
    exact hm
  | false =>
    cases hd : Processor.deadline s.stage with
    | none =>
      have hm : Moves r i s _ false :=
        .sleeps h hf he (by simp [Due, hd])
      simpa [hd] using hm
    | some deadline =>
      by_cases hdue : deadline.tick ≤ r.now
      · have hm : Moves r i s _ true := .expires h hf he ⟨deadline, hd, hdue⟩
        simpa [hdue, absorb, called, hf] using hm
      · have hm : Moves r i s _ false :=
          .sleeps h hf he (by simp [Due, hd, hdue])
        simpa [hd, hdue] using hm

theorem delivering_moves (r : Run σ ω) (i : Nat) (s : Station σ) {f : Frame} {fs : List Frame}
    {atEnd : Bool} (h : s.task = .delivering (f :: fs) atEnd) :
    Moves r i s (r.move i s).1 (r.move i s).2 := by
  simp only [move, h]
  cases hr : r.room i with
  | full => exact .stays (.inr ⟨⟨f, fs, atEnd, h⟩, hr⟩)
  | closed =>
    simp only [stopStage_eq]
    obtain ⟨woken, hw, hwakes⟩ := { r with world := (r.stopped s atEnd).world }.halt_eq i
      (told s (r.stopped s atEnd) s.task)
    rw [hw]
    exact .halts (.inr ⟨⟨f, fs, h⟩, hr⟩) ⟨hwakes.few, hwakes.awake⟩
  | accepted =>
    rcases room_accepted hr with ⟨hn, ho⟩ | ⟨next, hn, hs, hl⟩
    · simp only [handOver, hn]
      exact .emits h hn ho
    · simp only [handOver, hn]
      obtain ⟨woken, hw, hwakes⟩ :=
        (r.update (i + 1) { next with inbox := next.inbox ++ [f] }).wake_eq (i + 1)
      rw [hw]
      exact .hands h hn hs hl ⟨hwakes.few, hwakes.awake⟩

theorem move_moves (r : Run σ ω) (i : Nat) (s : Station σ) :
    Moves r i s (r.move i s).1 (r.move i s).2 := by
  obtain ⟨stage, conversation, inbox, task⟩ := s
  cases task with
  | stopped => exact .stays (.inl rfl)
  | unstarted => exact .begins rfl
  | waiting =>
    cases inbox with
    | nil => exact r.waiting_moves i _ rfl rfl
    | cons f fs =>
      simp only [move]
      obtain ⟨woken, hw, hwakes⟩ := (r.update i ⟨stage, conversation, fs, .waiting⟩).wakeSender_eq i
      rw [hw]
      have hwakes' : r.Wakes 1 (r.IsSender i) woken :=
        ⟨hwakes.few, fun j hj => hwakes.awake j ((r.isSender_update i j _).mpr hj)⟩
      have hm := Moves.takes (s := ⟨stage, conversation, f :: fs, .waiting⟩) rfl rfl hwakes'
      simpa [absorb, roused, update, called, time] using hm
  | delivering frames atEnd =>
    cases frames with
    | nil =>
      simp only [move, stopStage_eq]
      exact .returns rfl
    | cons f fs => exact r.delivering_moves i _ rfl

end BargeIn.Pipeline.Run
