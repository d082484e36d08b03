import BargeIn.Document.Tagged
import BargeIn.Time.Instant

/-!
# Replay events

The lines of a recorded conversation, each of which becomes a frame or a pause, and the reports of
the decisions about it. A report is written as one line, a JSON object that begins with the kind of
the decision.
-/

set_option autoImplicit false

namespace BargeIn.Replay

open Document Number

inductive Event
  | utteranceStarted
  | utteranceEnded
  | transcript (text : String) (isFinal : Bool) (duration : Option Binary64)
      (wordCount : Option Nat) (language : Option String)
  | agentSpeech (text : String)
  | addIgnoredWords (words : List String)
  | wait (seconds : Binary64)
deriving Repr, DecidableEq

namespace Event

def transcriptOfFields? (fields : List (String × Json)) : Option Event := do
  return .transcript
    (← required? fields "text" text?)
    (← field? fields "is_final" flag? true)
    (← field? fields "duration" (optional? fraction?) none)
    (← field? fields "word_count" (optional? (Json.natural? (twoTo 64))) none)
    (← field? fields "language" (optional? text?) none)

def ofJson? (v : Json) : Option Event := do
  let (kind, rest) ← v.tagged? "event"
  match kind with
  | "utterance_started" => (fields? [] rest).map fun _ => .utteranceStarted
  | "utterance_ended" => (fields? [] rest).map fun _ => .utteranceEnded
  | "transcript" =>
    (fields? ["text", "is_final", "duration", "word_count", "language"] rest).bind
      transcriptOfFields?
  | "agent_speech" =>
    (fields? ["text"] rest).bind fun fields => (required? fields "text" text?).map .agentSpeech
  | "add_ignored_words" =>
    (fields? ["words"] rest).bind fun fields =>
      (required? fields "words" texts?).map .addIgnoredWords
  | "wait" =>
    (fields? ["seconds"] rest).bind fun fields =>
      (required? fields "seconds" fraction?).map .wait
  | _ => none

def parse? (line : String) : Option Event :=
  (Json.readSound? line).bind ofJson?

/-- The length of a pause in nanoseconds; no time if the seconds are no duration. -/
def pause : Event → Option Nat
  | .wait seconds => some ((nanosOfSeconds? seconds).getD 0)
  | _ => none

def frame (now : Instant) : Event → Option Frame
  | .utteranceStarted => some (.utteranceStarted now)
  | .utteranceEnded => some .utteranceEnded
  | .transcript text isFinal duration wordCount language => some <| .transcript {
      text, isFinal
      language := language.bind Language.ofHint?
      receivedAt := now
      duration := duration.bind nanosOfSeconds?
      wordCount }
  | .agentSpeech text => some (.agentSpeech text)
  | .addIgnoredWords words => some (.control (.addIgnoredWords words))
  | .wait _ => none

end Event

inductive Report
  | interrupt (reason : Reason) (transcript : Option String)
  | resume
  | awaitingConfirmation (deadline : Nat)
  | acknowledgmentSuppressed (text : String)
  | error (stage : String) (message : String)
deriving Repr, DecidableEq

namespace Report

/-- Frames that are neither a decision nor an error are not reported. -/
def ofFrame? (origin : Instant) : Frame → Option Report
  | .interrupt reason transcript => some (.interrupt reason transcript)
  | .resume => some .resume
  | .awaitingConfirmation deadline =>
    some (.awaitingConfirmation (deadline.since origin / 1000000 % twoTo 64))
  | .acknowledgmentSuppressed text => some (.acknowledgmentSuppressed text)
  | .error stage message _ => some (.error stage message)
  | _ => none

def kind : Report → String
  | .interrupt .. => "interrupt"
  | .resume => "resume"
  | .awaitingConfirmation _ => "awaiting_confirmation"
  | .acknowledgmentSuppressed _ => "acknowledgment_suppressed"
  | .error .. => "error"

/-- The members behind the kind, each with its value as it is written. An interruption that no
speech caused has no transcript. -/
def members : Report → List (String × String)
  | .interrupt reason transcript =>
    ("reason", Json.quote reason.name) ::
      (transcript.map fun text => ("transcript", Json.quote text)).toList
  | .resume => []
  | .awaitingConfirmation deadline => [("deadline_ms", toString deadline)]
  | .acknowledgmentSuppressed text => [("text", Json.quote text)]
  | .error stage message => [("stage", Json.quote stage), ("message", Json.quote message)]

def line (r : Report) : String :=
  let members := ("decision", Json.quote r.kind) :: r.members
  let written := members.map fun (name, value) => Json.quote name ++ ":" ++ value
  "\x7b" ++ ",".intercalate written ++ "\x7d"

end Report

end BargeIn.Replay
