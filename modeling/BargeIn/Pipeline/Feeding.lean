import BargeIn.Pipeline.Run

/-!
# Feeding running chains

One more task may feed a running chain. It goes through a list of inputs, for each of which it
sends a frame, pauses or does nothing, and then sends the end of the stream. It goes on when it
can, before or after the tasks of the chain, in any order that is chosen; while there is no room
for its frame it waits. The clock moves only when no task can go on, the reader has taken what came
out and the feeder waits, to the next alarm or the end of the pause at most.
-/

set_option autoImplicit false

namespace BargeIn.Pipeline

inductive Order
  | skip
  | pause (ms : Nat)
  | send (frame : Frame)
deriving Repr, DecidableEq

def Order.deeds : Order → List Deed
  | .skip => []
  | .pause ms => [.pause ms]
  | .send f => [.send f]

inductive Feeder (ι : Type)
  | ready (inputs : List ι)
  | asleep (target : Nat) (inputs : List ι)
  /-- Inputs that come after the frame, unless it is the end of the stream. -/
  | sending (frame : Frame) (inputs : Option (List ι))
  | done
deriving Repr, DecidableEq

namespace Feeder

variable {ι : Type}

def isDone : Feeder ι → Bool
  | .done => true
  | _ => false

def alarm : Feeder ι → Option Nat
  | .asleep target _ => some target
  | _ => none

end Feeder

structure Feeding (σ ω ι : Type) where
  run : Run σ ω
  feeder : Feeder ι

inductive Choice
  | turn
  | defer
  | read (frames : Option Nat)
  | feed
  | pass (ms : Nat)
deriving Repr, DecidableEq

namespace Feeding

variable {σ ω ι : Type}

/-- One move of the feeder, unless it has to wait. If the chain has closed it gives up. -/
def feed (order : Nat → ι → Order) (s : Feeding σ ω ι) : Option (Feeding σ ω ι) :=
  match s.feeder with
  | .ready [] => some { s with feeder := .sending .endOfStream none }
  | .ready (input :: inputs) =>
    some { s with
      feeder := match order s.run.now input with
        | .skip => .ready inputs
        | .pause ms => .asleep (s.run.now + ms) inputs
        | .send f => .sending f (some inputs) }
  | .asleep target inputs =>
    if target ≤ s.run.now then some { s with feeder := .ready inputs } else none
  | .sending f inputs =>
    match s.run.entry with
    | .accepted => some ⟨s.run.posted f, (inputs.map .ready).getD .done⟩
    | .full => none
    | .closed => some { s with feeder := .done }
  | .done => none

def Waits (order : Nat → ι → Order) (s : Feeding σ ω ι) (ms : Nat) : Prop :=
  s.run.ready = [] ∧ s.run.reader.unread = 0 ∧ (s.feed order).isNone ∧ s.run.now < ms ∧
    (∀ a ∈ s.run.alarms, ms ≤ a.1) ∧ ∀ t ∈ s.feeder.alarm, ms ≤ t

instance (order : Nat → ι → Order) (s : Feeding σ ω ι) (ms : Nat) : Decidable (s.Waits order ms) :=
  inferInstanceAs (Decidable (_ ∧ _))

variable [Processor σ ω]

def step (order : Nat → ι → Order) (s : Feeding σ ω ι) : Choice → Option (Feeding σ ω ι)
  | .turn => some { s with run := s.run.turn }
  | .defer => some { s with run := s.run.defer }
  | .read frames => some { s with run := s.run.read frames }
  | .feed => s.feed order
  | .pass ms => if s.Waits order ms then some { s with run := s.run.rung ms } else none

def after (order : Nat → ι → Order) (s : Feeding σ ω ι) : List Choice → Option (Feeding σ ω ι)
  | [] => some s
  | c :: choices => (s.step order c).bind (·.after order choices)

/-- By some choices the run comes to this, and the feeder to its end or not. -/
def Attains (order : Nat → ι → Order) (first : Run σ ω) (inputs : List ι) (r : Run σ ω)
    (ended : Bool) : Prop :=
  ∃ choices s, Feeding.after order ⟨first, .ready inputs⟩ choices = some s ∧ s.run = r ∧
    s.feeder.isDone = ended

end Feeding

namespace Run

variable {σ ω ι : Type} [Processor σ ω]

def drive (order : Nat → ι → Order) (r : Run σ ω) (inputs : List ι) : Run σ ω :=
  inputs.foldl (fun r input => r.perform (order r.now input).deeds) r

end Run

end BargeIn.Pipeline
