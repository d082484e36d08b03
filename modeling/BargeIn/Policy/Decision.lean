import BargeIn.Lexicon.Classifier
import BargeIn.Policy.Config
import BargeIn.Policy.Session

/-!
# Decisions

What each fragment of user speech means for the utterance under way. A stop command interrupts in
every state but the last. Other speech interrupts at once if it is meaningful and long enough;
otherwise the decision waits for the next fragment until a deadline.
-/

set_option autoImplicit false

namespace BargeIn

inductive Decision
  | ignore
  | interrupt (reason : Reason)
  | resume
  | wait (deadline : Instant)
deriving Repr, DecidableEq

namespace Decision

def isInterrupt : Decision → Bool
  | .interrupt _ => true
  | _ => false

/-- The frame that announces a decision. An interruption names the speech that caused it unless
it comes from a deadline. -/
def frame (text : Option String) : Decision → Option Frame
  | .ignore => none
  | .interrupt .timeout => some (.interrupt .timeout none)
  | .interrupt reason => some (.interrupt reason text)
  | .resume => some .resume
  | .wait deadline => some (.awaitingConfirmation deadline)

end Decision

structure Outcome where
  decision : Decision
  suppressNextAck : Bool
  classification : Classification
deriving Repr, DecidableEq

structure Policy where
  config : Policy.Config
  classifier : Classifier
  valid : config.validate = .ok ()
deriving DecidableEq

namespace Policy

def create (config : Config) (classifier : Classifier) : Except Fault Policy :=
  match h : config.validate with
  | .ok () => .ok ⟨config, classifier, h⟩
  | .error fault => .error fault

namespace Config

/-- Whether meaningful speech is long enough to interrupt at once. The recognizer's word count
can lower the count but not raise it. -/
def meetsMinimums (c : Config) (f : Fragment) (residual : List String) : Bool :=
  let count := match f.wordCount with
    | some reported => min reported residual.length
    | none => residual.length
  c.minDuration ≤ f.spoken && c.minInterruptionWords ≤ count

def transition (c : Config) (f : Fragment) (classification : Classification) (s : Session) :
    Decision × Session :=
  let interrupt (reason : Reason) := (Decision.interrupt reason, s.interrupt reason)
  match s.state with
  | .interrupted _ => (.ignore, s)
  | .pending _ deadline =>
    if classification.isStop then interrupt .stopCommand
    else if !c.allowInterruptions then (.ignore, s)
    else if deadline ≤ f.receivedAt then interrupt .timeout
    else if classification.isOnlyFiller then (.resume, s.resume)
    else interrupt .confirmed
  | .speaking =>
    if classification.isStop then interrupt .stopCommand
    else if !c.allowInterruptions then (.ignore, s)
    else if !classification.isOnlyFiller && c.meetsMinimums f classification.residual then
      interrupt .meaningfulSpeech
    else match f.receivedAt.add? c.resumeTimeout with
      | some deadline => (.wait deadline, s.await f.receivedAt deadline)
      | none => interrupt .timeout

end Config

/-- The fragment's own time is the clock: one that arrives at or after a pending deadline finds
it passed. -/
def decide (p : Policy) (f : Fragment) (s : Session) : Outcome × Session :=
  let classification := p.classifier.classify f.text
  let (decision, next) := p.config.transition f classification s
  (⟨decision, classification.isStop && decision.isInterrupt, classification⟩, next)

/-- While the agent is silent there is nothing to interrupt, but a stop command still withholds
the acknowledgment. -/
def decideSilent (p : Policy) (f : Fragment) : Outcome :=
  let classification := p.classifier.classify f.text
  ⟨.ignore, classification.isStop, classification⟩

def poll (s : Session) (now : Instant) : Option Decision × Session :=
  match s.state with
  | .pending _ deadline =>
    if deadline ≤ now then (some (.interrupt .timeout), s.interrupt .timeout) else (none, s)
  | _ => (none, s)

def addIgnoredWords (p : Policy) (words : List String) : Policy × Nat :=
  let (classifier, added) := p.classifier.addIgnoredWords words
  ({ p with classifier }, added)

end Policy

end BargeIn
