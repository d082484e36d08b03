import BargeIn.Fault
import BargeIn.Language
import BargeIn.Time.Instant

/-!
# Frames

What travels through the pipeline: the user's speech as it is transcribed, the agent's own
utterances, the decisions made about them, and the frames that steer the pipeline itself.
-/

set_option autoImplicit false

namespace BargeIn

structure Fragment where
  text : String
  isFinal : Bool := true
  language : Option Language := none
  receivedAt : Instant
  /-- The spoken duration in nanoseconds, if the recognizer estimates it. -/
  duration : Option Nat := none
  wordCount : Option Nat := none
deriving Repr, DecidableEq

namespace Fragment

def spoken (f : Fragment) : Nat := f.duration.getD 0

def isBlank (f : Fragment) : Bool :=
  f.text.toList.all Text.isBlank

end Fragment

inductive Reason
  | stopCommand
  | meaningfulSpeech
  | confirmed
  | timeout
deriving Repr, DecidableEq

namespace Reason

def all : List Reason := [.stopCommand, .meaningfulSpeech, .confirmed, .timeout]

def name : Reason → String
  | .stopCommand => "stop_command"
  | .meaningfulSpeech => "meaningful_speech"
  | .confirmed => "confirmed"
  | .timeout => "timeout"

end Reason

inductive Control
  | reset
  | addIgnoredWords (words : List String)
deriving Repr, DecidableEq

inductive Frame
  | transcript (fragment : Fragment)
  | utteranceStarted (start : Instant)
  | utteranceEnded
  | agentSpeech (text : String)
  | interrupt (reason : Reason) (transcript : Option String)
  | resume
  | awaitingConfirmation (deadline : Instant)
  | acknowledgmentSuppressed (text : String)
  | endOfStream
  | error (stage : String) (message : String) (recoverable : Bool)
  | control (control : Control)
deriving Repr, DecidableEq

namespace Frame

def isEndOfStream : Frame → Bool
  | .endOfStream => true
  | _ => false

def isError : Frame → Bool
  | .error .. => true
  | _ => false

def isControl : Frame → Bool
  | .control _ => true
  | _ => false

def isDecision : Frame → Bool
  | .interrupt .. | .resume | .awaitingConfirmation _ | .acknowledgmentSuppressed _ => true
  | _ => false

def kind : Frame → String
  | .transcript _ => "transcript"
  | .utteranceStarted _ => "utterance_started"
  | .utteranceEnded => "utterance_ended"
  | .agentSpeech _ => "agent_speech"
  | .interrupt .. => "interrupt"
  | .resume => "resume"
  | .awaitingConfirmation _ => "awaiting_confirmation"
  | .acknowledgmentSuppressed _ => "acknowledgment_suppressed"
  | .endOfStream => "end_of_stream"
  | .error .. => "error"
  | .control _ => "control"

end Frame

/-- What a stage knows of the conversation: its session, the number of the agent's turns so far
and the last language heard. -/
structure Conversation where
  sessionId : String := ""
  turn : Nat := 0
  language : Option Language := none
deriving Repr, DecidableEq

end BargeIn
