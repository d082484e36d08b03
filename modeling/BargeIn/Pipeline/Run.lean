import BargeIn.Pipeline.Processor

/-!
# Running chains

A chain runs as one task for each stage, joined by queues of bounded length. A task waits for a
frame or for its stage's deadline, handles one of them, the frame if both are there, and delivers
what comes out; a full queue makes it wait and a closed one makes it stop. The queue behind the
last station is as long as the others, and a reader takes frames from it, at once or when it
pleases. Time is a virtual clock that counts milliseconds: it stands still until no task can go
on, and then moves to the next alarm or to the end of a pause, whichever is first. Tasks take
turns in the order in which they became able to go on, unless one lets the others go first, and
alarms of the same millisecond ring in the order in which they were set.
-/

set_option autoImplicit false

namespace BargeIn.Pipeline

inductive Task
  | unstarted
  | waiting
  /-- The frames still to be delivered, and whether they come of the end of the stream. -/
  | delivering (frames : List Frame) (atEnd : Bool)
  | stopped
deriving Repr, DecidableEq

structure Station (σ : Type) where
  stage : σ
  conversation : Conversation
  inbox : List Frame := []
  task : Task := .unstarted

inductive Delivery
  | accepted
  | full
  | closed
deriving Repr, DecidableEq

namespace Station

variable {σ : Type}

def isStopped (s : Station σ) : Bool :=
  s.task = .stopped

def admits (s : Station σ) (capacity : Nat) : Delivery :=
  if s.isStopped then .closed
  else if s.inbox.length < capacity then .accepted
  else .full

end Station

inductive Reader
  | prompt
  /-- Takes frames when it pleases; until then so many wait in its queue. -/
  | tardy (unread : Nat)
  | gone
deriving Repr, DecidableEq

namespace Reader

def admits (capacity : Nat) : Reader → Delivery
  | .prompt => .accepted
  | .tardy unread => if unread < capacity then .accepted else .full
  | .gone => .closed

def unread : Reader → Nat
  | .tardy unread => unread
  | .prompt | .gone => 0

def offered : Reader → Reader
  | .tardy unread => .tardy (unread + 1)
  | reader => reader

/-- Takes some of the frames that wait, or all of them and from now on each one at once. -/
def take : Reader → Option Nat → Reader
  | .gone, _ => .gone
  | _, none => .prompt
  | .prompt, some _ => .tardy 0
  | .tardy unread, some frames => .tardy (unread - frames)

end Reader

structure Run (σ ω : Type) where
  stations : List (Station σ)
  world : ω
  capacity : Nat
  now : Nat := 0
  inputOpen : Bool := true
  reader : Reader := .prompt
  ready : List Nat := []
  /-- The millisecond and the station of each alarm, in the order in which they were set. -/
  alarms : List (Nat × Nat) := []
  /-- What came out, each frame with the millisecond of its delivery. -/
  output : List (Nat × Frame) := []

namespace Run

variable {σ ω : Type} [Processor σ ω]

def time (r : Run σ ω) : Instant := .ofMillis r.now

def wake (r : Run σ ω) (i : Nat) : Run σ ω :=
  if r.ready.contains i then r else { r with ready := r.ready ++ [i] }

def wakeSender (r : Run σ ω) : Nat → Run σ ω
  | 0 => r
  | i + 1 =>
    match r.stations[i]? with
    | some ⟨_, _, _, .delivering (_ :: _) _⟩ => r.wake i
    | _ => r

def update (r : Run σ ω) (i : Nat) (s : Station σ) : Run σ ω :=
  { r with stations := r.stations.set i s }

def inputEnded (r : Run σ ω) : Nat → Bool
  | 0 => !r.inputOpen
  | i + 1 => (r.stations[i]?).all (·.isStopped)

def halt (r : Run σ ω) (i : Nat) (s : Station σ) : Run σ ω :=
  let r := r.update i { s with task := .stopped }
  let r := r.wakeSender i
  if i + 1 < r.stations.length then r.wake (i + 1) else r

/-- After the end of the stream the stage is told to stop, but its task goes on, also if the stage
fails to. -/
def stopStage (r : Run σ ω) (s : Station σ) (atEnd : Bool) : Run σ ω × Station σ :=
  if atEnd then
    let effect := Processor.stop s.stage r.world s.conversation r.time
    ({ r with world := effect.world },
      { s with stage := effect.stage, conversation := effect.conversation })
  else (r, s)

def room (r : Run σ ω) (i : Nat) : Delivery :=
  match r.stations[i + 1]? with
  | none => r.reader.admits r.capacity
  | some next => next.admits r.capacity

def handOver (r : Run σ ω) (i : Nat) (f : Frame) : Run σ ω :=
  match r.stations[i + 1]? with
  | none => { r with output := r.output ++ [(r.now, f)], reader := r.reader.offered }
  | some next => (r.update (i + 1) { next with inbox := next.inbox ++ [f] }).wake (i + 1)

/-- A call that fails yields a single error frame in the stage's name. -/
def emitted (s : σ) (result : Except Fault (List Frame)) : List Frame :=
  match result with
  | .ok frames => frames
  | .error fault => [.error (Processor.name s) fault.message true]

def absorb (r : Run σ ω) (i : Nat) (s : Station σ) (effect : Effect σ ω) (atEnd : Bool) :
    Run σ ω :=
  { r with world := effect.world }.update i
    { s with
      stage := effect.stage
      conversation := effect.conversation
      task := .delivering (emitted s.stage effect.result) atEnd }

def move (r : Run σ ω) (i : Nat) (s : Station σ) : Run σ ω × Bool :=
  match s.task with
  | .stopped => (r, false)
  | .unstarted =>
    let effect := Processor.start s.stage r.world s.conversation r.time
    ({ r with world := effect.world }.update i
      { s with stage := effect.stage, conversation := effect.conversation, task := .waiting }, true)
  | .delivering [] atEnd =>
    let (r, s) := r.stopStage s atEnd
    (r.update i { s with task := .waiting }, true)
  | .delivering (f :: fs) atEnd =>
    match r.room i with
    | .accepted => ((r.handOver i f).update i { s with task := .delivering fs atEnd }, true)
    | .full => (r, false)
    | .closed =>
      -- What is left to deliver is lost, but a stage at its end is still told to stop.
      let (r, s) := r.stopStage s atEnd
      (r.halt i s, false)
  | .waiting =>
    match s.inbox with
    | f :: fs =>
      let s := { s with inbox := fs }
      let r := (r.update i s).wakeSender i
      (r.absorb i s (Processor.process s.stage r.world s.conversation r.time f) f.isEndOfStream,
        true)
    | [] =>
      -- A deadline is served only while no frame waits and more can come.
      if r.inputEnded i then (r.halt i s, false)
      else match Processor.deadline s.stage with
        | none => (r, false)
        | some deadline =>
          if deadline.tick ≤ r.now then
            (r.absorb i s (Processor.expire s.stage r.world s.conversation r.time) false, true)
          else ({ r with alarms := r.alarms ++ [(deadline.tick, i)] }, false)

/-- One move of the task whose turn it is. Its alarm is set anew when it waits again, and then
the turn passes to the next task. -/
def step (r : Run σ ω) : Option (Run σ ω) :=
  match r.ready with
  | [] => none
  | i :: rest =>
    let r := { r with alarms := r.alarms.filter (·.2 != i) }
    match r.stations[i]? with
    | none => some { r with ready := rest }
    | some s =>
      match r.move i s with
      | (r, true) => some r
      | (r, false) => some { r with ready := r.ready.drop 1 }

/-- A bound on the moves that some stations have before them, and on those that one more frame in
the queue of the first adds to them: it is taken, and what comes of it is delivered. -/
def Station.load (now : Nat) : List (Station σ) → Nat × Nat
  | [] => (0, 0)
  | s :: later =>
    let (work, next) := load now later
    let deliver := max (Processor.spread σ) 1 * (next + 2)
    let expire := deliver + 3
    let take := deliver + 2 * expire + 3
    let due := if (Processor.deadline s.stage).any (·.tick ≤ now) then expire else 0
    let begun := match s.task with
      | .unstarted => expire + 1
      | .waiting | .stopped => 0
      | .delivering frames atEnd =>
        frames.length * (next + 2) + 1 + if atEnd then expire else 0
    (work + if s.isStopped then 0 else 3 + begun + due + s.inbox.length * take, take)

def budget (r : Run σ ω) : Nat :=
  r.ready.length + (Station.load r.now r.stations).1

def settleFor : Nat → Run σ ω → Run σ ω
  | 0, r => r
  | fuel + 1, r =>
    match r.step with
    | none => r
    | some next => settleFor fuel next

def settle (r : Run σ ω) : Run σ ω :=
  settleFor r.budget r

def unstarted (chain : Chain σ ω) (conversation : Conversation) (capacity : Nat) : Run σ ω where
  stations := chain.stages.map fun stage => ⟨stage, conversation, [], .unstarted⟩
  world := chain.world
  capacity
  ready := List.range chain.stages.length

def start (chain : Chain σ ω) (conversation : Conversation) (capacity : Nat) : Run σ ω :=
  (unstarted chain conversation capacity).settle

def nextAlarm (r : Run σ ω) : Option Nat :=
  (r.alarms.map (·.1)).min?

def rung (r : Run σ ω) (ms : Nat) : Run σ ω :=
  let due := r.alarms.filter (·.1 ≤ ms)
  { due.foldl (fun r alarm => r.wake alarm.2) r with now := ms }

def ring (r : Run σ ω) (ms : Nat) : Run σ ω :=
  (r.rung ms).settle

/-- Rings all alarms up to a millisecond; each moves the clock, so there are at most as many as
milliseconds. -/
def passUntil (target : Nat) : Nat → Run σ ω → Run σ ω
  | 0, r => { r with now := target }
  | left + 1, r =>
    match r.nextAlarm with
    | some ms => if ms ≤ target then passUntil target left (r.ring ms) else { r with now := target }
    | none => { r with now := target }

def sleep (r : Run σ ω) (ms : Nat) : Run σ ω :=
  passUntil (r.now + ms) ms r.settle

def entry (r : Run σ ω) : Delivery :=
  match r.stations[0]? with
  | some s => if r.inputOpen then s.admits r.capacity else .closed
  | none => .closed

def posted (r : Run σ ω) (f : Frame) : Run σ ω :=
  match r.stations[0]? with
  | some s => (r.update 0 { s with inbox := s.inbox ++ [f] }).wake 0
  | none => r

/-- Sends a frame into the chain. While there is no room for it the sender has to wait. -/
def post (r : Run σ ω) (f : Frame) : Run σ ω :=
  match r.entry with
  | .accepted => r.posted f
  | .full | .closed => r

def send (r : Run σ ω) (f : Frame) : Run σ ω :=
  (r.post f).settle

def turn (r : Run σ ω) : Run σ ω :=
  r.step.getD r

def defer (r : Run σ ω) : Run σ ω :=
  match r.ready with
  | [] => r
  | i :: rest => { r with ready := rest ++ [i] }

def read (r : Run σ ω) (frames : Option Nat) : Run σ ω :=
  { r with reader := r.reader.take frames }.wakeSender r.stations.length

def closeOutput (r : Run σ ω) : Run σ ω :=
  { r with reader := .gone }.wakeSender r.stations.length

/-- No more frames are sent. When their queues are empty the tasks stop, one after the other and
without serving deadlines. -/
def closeInput (r : Run σ ω) : Run σ ω :=
  { r with inputOpen := false }.wake 0

def hasEnded (r : Run σ ω) : Bool :=
  r.stations.all (·.isStopped)

end Run

inductive Deed
  | send (frame : Frame)
  | pause (ms : Nat)
  | post (frame : Frame)
  | turn
  | defer
  | read (frames : Option Nat)
  | closeOutput
  | closeInput
deriving Repr, DecidableEq

namespace Deed

def frame : Deed → Option Frame
  | .send f | .post f => some f
  | _ => none

def isPaced : Deed → Bool
  | .send _ | .pause _ => true
  | _ => false

def isOpen : Deed → Bool
  | .closeOutput | .closeInput => false
  | _ => true

end Deed

namespace Run

variable {σ ω : Type} [Processor σ ω]

def deed (r : Run σ ω) : Deed → Run σ ω
  | .send f => r.send f
  | .pause ms => r.sleep ms
  | .post f => r.post f
  | .turn => r.turn
  | .defer => r.defer
  | .read frames => r.read frames
  | .closeOutput => r.closeOutput
  | .closeInput => r.closeInput

def perform (r : Run σ ω) : List Deed → Run σ ω
  | [] => r
  | d :: deeds => (r.deed d).perform deeds

def answers (r : Run σ ω) : List Deed → List Delivery
  | [] => []
  | d :: deeds => d.frame.toList.map (fun _ => r.entry) ++ (r.deed d).answers deeds

def taken (r : Run σ ω) : List Deed → List Frame
  | [] => []
  | d :: deeds => d.frame.toList.filter (fun _ => r.entry = .accepted) ++ (r.deed d).taken deeds

end Run

end BargeIn.Pipeline
