import BargeIn.Frame

/-!
# Speech sessions

One utterance of the agent: it is spoken, waits for a possible interruption to be confirmed, or
has been interrupted, which is final.
-/

set_option autoImplicit false

namespace BargeIn

inductive SpeechState
  | speaking
  | pending (since deadline : Instant)
  | interrupted (reason : Reason)
deriving Repr, DecidableEq

namespace SpeechState

def name : SpeechState → String
  | .speaking => "speaking"
  | .pending .. => "pending_confirmation"
  | .interrupted _ => "interrupted"

def isInterrupted : SpeechState → Bool
  | .interrupted _ => true
  | _ => false

def deadline : SpeechState → Option Instant
  | .pending _ deadline => some deadline
  | _ => none

end SpeechState

structure Session where
  state : SpeechState
  startedAt : Instant
  /-- How many possible interruptions were taken back. -/
  falseInterruptions : Nat
deriving Repr, DecidableEq

namespace Session

def start (time : Instant) : Session := ⟨.speaking, time, 0⟩

def isInterrupted (s : Session) : Bool := s.state.isInterrupted

theorem state_interrupted {s : Session} (hi : s.isInterrupted = true) :
    ∃ reason, s.state = .interrupted reason := by
  obtain ⟨state, startedAt, count⟩ := s
  cases state with
  | interrupted reason => exact ⟨reason, rfl⟩
  | speaking => cases hi
  | pending since deadline => cases hi

def deadline (s : Session) : Option Instant := s.state.deadline

def await (s : Session) (since deadline : Instant) : Session :=
  { s with state := .pending since deadline }

def resume (s : Session) : Session :=
  { s with state := .speaking, falseInterruptions := s.falseInterruptions + 1 }

def interrupt (s : Session) (reason : Reason) : Session :=
  { s with state := .interrupted reason }

end Session

end BargeIn
