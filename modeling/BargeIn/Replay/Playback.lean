import BargeIn.Pipeline.Feeding
import BargeIn.Pipeline.Stages
import BargeIn.Replay.Event

/-!
# Playback

A recorded conversation is fed line by line to the running standard chain, on a virtual clock that
only pauses move. What comes out up to the end of the stream is reported as soon as it is taken.
-/

set_option autoImplicit false

namespace BargeIn.Replay

open Pipeline

abbrev Player := Run Stage Shared

def wholeMillis (nanos : Nat) : Nat :=
  (nanos + 999999) / 1000000

def Event.order (now : Nat) (event : Event) : Order :=
  match event.pause, event.frame (.ofMillis now) with
  | some nanos, _ => .pause (wholeMillis nanos)
  | none, some frame => .send frame
  | none, none => .skip

inductive Reading
  | blank
  | malformed
  | understood (event : Event)
deriving Repr, DecidableEq

namespace Reading

def ofLine (line : String) : Reading :=
  if line.toList.all Text.isBlank then .blank
  else match Event.parse? line with
    | none => .malformed
    | some event => .understood event

def order (now : Nat) : Reading → Order
  | .blank | .malformed => .skip
  | .understood event => event.order now

end Reading

def lineOrder (now : Nat) (line : String) : Order :=
  (Reading.ofLine line).order now

def reportsOf (output : List (Nat × Frame)) : List (Nat × Report) :=
  output.filterMap fun (ms, frame) => (Report.ofFrame? .origin frame).map (ms, ·)

namespace Player

def unstarted (policy : Policy) (conversation : Conversation) : Player :=
  Run.unstarted (interruptionChain policy) conversation 64

def start (policy : Policy) (conversation : Conversation) : Player :=
  (unstarted policy conversation).settle

def playLines (p : Player) (lines : List String) : Player :=
  p.drive lineOrder lines

def finish (p : Player) : Player :=
  p.send .endOfStream

def catchUp (p : Player) (ms : Nat) : Player :=
  p.sleep (ms - p.now)

/-- The frames that the reader has taken. -/
def heard (p : Player) : List (Nat × Frame) :=
  p.output.take (p.output.length - p.reader.unread)

/-- What is printed, which ends with the stream. -/
def reports (p : Player) : List (Nat × Report) :=
  reportsOf (p.heard.takeWhile (!·.2.isEndOfStream))

def emptied (p : Player) : Player :=
  { p with output := [] }

end Player

/-- The lines of a text. Each ends in a line feed; the last one may do without. A carriage return
at the end of a line is dropped. -/
def splitLines (text : String) : List String :=
  let lines := text.splitOn "\n"
  let complete := if lines.getLast? = some "" then lines.dropLast else lines
  complete.map fun line =>
    let cs := line.toList
    if cs.getLast? = some '\r' then String.ofList cs.dropLast else line

end BargeIn.Replay
