import BargeIn.Pipeline.Processor
import BargeIn.Policy.Decision
import BargeIn.Policy.Suppressor

/-!
# Stages

The stages a chain is made of. The handler decides about user speech; the filter withholds
acknowledgments; a relay passes everything on; a rule treats each frame by a fixed prescription
and may raise one alarm. The stages of a chain share one suppressor, and several handlers may share
a vocabulary, which learns what any of them is told to learn.
-/

set_option autoImplicit false

namespace BargeIn.Pipeline

structure Handler where
  policy : Policy
  session : Option Session := none

namespace Handler

def state (h : Handler) : Option SpeechState :=
  h.session.map (·.state)

def isInterrupted (h : Handler) : Bool :=
  h.session.any (·.isInterrupted)

def deadline (h : Handler) : Option Instant :=
  h.session.bind (·.deadline)

def reset (h : Handler) (s : Suppressor) : Handler × Suppressor :=
  ({ h with session := none }, s.disarm)

/-- A decision about a fragment, the handler after it, and the suppressor, armed if the next
acknowledgment is to be withheld. -/
def hear (h : Handler) (s : Suppressor) (f : Fragment) : Decision × Handler × Suppressor :=
  let (outcome, session) := match h.session with
    | some session =>
      let (outcome, next) := h.policy.decide f session
      (outcome, some next)
    | none => (h.policy.decideSilent f, none)
  (outcome.decision, { h with session },
    if outcome.suppressNextAck then s.arm f.receivedAt else s)

/-- Decision frames come before the frame that caused them. -/
def process (h : Handler) (s : Suppressor) (c : Conversation) (f : Frame) :
    List Frame × Handler × Suppressor × Conversation :=
  match f with
  | .utteranceStarted start =>
    ([f], { h with session := some (.start start) }, s, { c with turn := c.turn + 1 })
  | .utteranceEnded => ([f], { h with session := none }, s, c)
  | .transcript fragment =>
    let (decision, h, s) := h.hear s fragment
    ((decision.frame (some fragment.text)).toList ++ [f], h, s,
      { c with language := fragment.language.or c.language })
  | .control (.addIgnoredWords words) =>
    ([], { h with policy := (h.policy.addIgnoredWords words).1 }, s, c)
  | .control .reset | .endOfStream =>
    let (h, s) := h.reset s
    ([f], h, s, c)
  | _ => ([f], h, s, c)

def expire (h : Handler) (now : Instant) : List Frame × Handler :=
  match h.session with
  | none => ([], h)
  | some session =>
    let (decision, next) := Policy.poll session now
    ((decision.bind (·.frame none)).toList, { h with session := some next })

end Handler

structure Shared where
  suppressor : Suppressor
  vocabularies : List Vocabulary
deriving Repr, DecidableEq

/-- A handler without its vocabulary, which is at some place among those that are shared. -/
structure SharedHandler where
  config : Policy.Config
  enabled : Bool
  valid : config.validate = .ok ()
  place : Nat
  session : Option Session := none

namespace Shared

def vocabulary (w : Shared) (place : Nat) : Vocabulary :=
  w.vocabularies.getD place .empty

def ofPolicy (policy : Policy) : Shared :=
  ⟨.ofConfig policy.config, [policy.classifier.vocabulary]⟩

end Shared

namespace SharedHandler

def ofPolicy (policy : Policy) (place : Nat) : SharedHandler :=
  { policy with enabled := policy.classifier.enabled, place }

def deadline (h : SharedHandler) : Option Instant :=
  h.session.bind (·.deadline)

def within (h : SharedHandler) (w : Shared) : Handler :=
  ⟨⟨h.config, ⟨w.vocabulary h.place, h.enabled⟩, h.valid⟩, h.session⟩

def stored (h : SharedHandler) (w : Shared) (next : Handler) : Shared :=
  { w with vocabularies := w.vocabularies.set h.place next.policy.classifier.vocabulary }

def reset (h : SharedHandler) (w : Shared) : SharedHandler × Shared :=
  let (next, suppressor) := (h.within w).reset w.suppressor
  ({ h with session := next.session }, { w with suppressor })

def process (h : SharedHandler) (w : Shared) (c : Conversation) (f : Frame) :
    List Frame × SharedHandler × Shared × Conversation :=
  let (out, next, suppressor, c) := (h.within w).process w.suppressor c f
  (out, { h with session := next.session }, { h.stored w next with suppressor }, c)

def expire (h : SharedHandler) (w : Shared) (now : Instant) : List Frame × SharedHandler :=
  let (out, next) := (h.within w).expire now
  (out, { h with session := next.session })

end SharedHandler

namespace Filter

/-- An acknowledgment that is withheld is replaced by a note of it. -/
def process (s : Suppressor) (now : Instant) (f : Frame) : Frame × Suppressor :=
  match f with
  | .agentSpeech text =>
    match s.filter text now with
    | (.suppress, s) => (.acknowledgmentSuppressed text, s)
    | (.speak, s) => (f, s)
  | _ => (f, s)

end Filter

inductive Reaction
  | keep
  | drop
  | double
  | fail
deriving Repr, DecidableEq

/-- A stage that treats each kind of frame by a fixed prescription. A set time after the start it
once emits `resume`, or fails. -/
structure Rule where
  name : String
  reaction : Frame → Reaction
  alarmAfter : Option Nat := none
  alarmFails : Bool := false
  startFails : Bool := false
  stopFails : Bool := false
  alarm : Option Instant := none

namespace Rule

def process (r : Rule) (f : Frame) : Except Fault (List Frame) :=
  match r.reaction f with
  | .keep => .ok [f]
  | .drop => .ok []
  | .double => .ok [f, f]
  | .fail => .error ⟨r.name, f.kind⟩

def start (r : Rule) (now : Instant) : Rule :=
  { r with alarm := r.alarmAfter.bind fun ms => now.add? (ms * 1000000) }

def expire (r : Rule) : Except Fault (List Frame) × Rule :=
  (if r.alarmFails then .error ⟨r.name, "timer"⟩ else .ok [.resume], { r with alarm := none })

def started (r : Rule) : Except Fault Unit :=
  if r.startFails then .error ⟨r.name, "start"⟩ else .ok ()

def stopped (r : Rule) : Except Fault Unit :=
  if r.stopFails then .error ⟨r.name, "stop"⟩ else .ok ()

end Rule

inductive Stage
  | handler (h : SharedHandler)
  | filter
  | relay (name : String)
  | rule (r : Rule)

namespace Stage

def name : Stage → String
  | .handler _ => "interrupt_handler"
  | .filter => "acknowledgment_filter"
  | .relay name => name
  | .rule r => r.name

def description : Stage → String
  | .handler _ => "Filler-aware interruption policy over agent utterances"
  | .filter => "Suppresses acknowledgment utterances after a stop command"
  | .relay _ | .rule _ => ""

def deadline : Stage → Option Instant
  | .handler h => h.deadline
  | .rule r => r.alarm
  | .filter | .relay _ => none

def start (stage : Stage) (w : Shared) (c : Conversation) (now : Instant) :
    Effect Stage Shared Unit :=
  match stage with
  | .handler h =>
    let (h, w) := h.reset w
    ⟨.handler h, w, c, .ok ()⟩
  | .rule r => ⟨.rule (r.start now), w, c, r.started⟩
  | .filter | .relay _ => ⟨stage, w, c, .ok ()⟩

def stop (stage : Stage) (w : Shared) (c : Conversation) : Effect Stage Shared Unit :=
  match stage with
  | .handler h =>
    let (h, w) := h.reset w
    ⟨.handler h, w, c, .ok ()⟩
  | .rule r => ⟨stage, w, c, r.stopped⟩
  | .filter | .relay _ => ⟨stage, w, c, .ok ()⟩

def process (stage : Stage) (w : Shared) (c : Conversation) (now : Instant) (f : Frame) :
    Effect Stage Shared :=
  match stage with
  | .handler h =>
    let (out, h, w, c) := h.process w c f
    ⟨.handler h, w, c, .ok out⟩
  | .filter =>
    let (out, suppressor) := Filter.process w.suppressor now f
    ⟨stage, { w with suppressor }, c, .ok [out]⟩
  | .relay _ => ⟨stage, w, c, .ok [f]⟩
  | .rule r => ⟨stage, w, c, r.process f⟩

def expire (stage : Stage) (w : Shared) (c : Conversation) (now : Instant) :
    Effect Stage Shared :=
  match stage with
  | .handler h =>
    let (out, h) := h.expire w now
    ⟨.handler h, w, c, .ok out⟩
  | .rule r =>
    let (result, r) := r.expire
    ⟨.rule r, w, c, result⟩
  | .filter | .relay _ => ⟨stage, w, c, .ok []⟩

instance : Processor Stage Shared where
  spread := 2
  name := name
  description := description
  deadline := deadline
  start := start
  stop stage w c _ := stop stage w c
  process := process
  expire := expire

end Stage

/-- The chain as it runs: one without stages passes everything on. -/
def Chain.running (chain : Chain Stage Shared) : Chain Stage Shared :=
  if chain.stages.isEmpty then { chain with stages := [.relay ""] } else chain

def interruptionChain (policy : Policy) : Chain Stage Shared :=
  ⟨"interruption", [.handler (.ofPolicy policy 0), .filter], .ofPolicy policy⟩

end BargeIn.Pipeline
