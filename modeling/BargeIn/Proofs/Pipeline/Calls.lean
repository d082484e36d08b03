import BargeIn.Pipeline.Stages
import BargeIn.Proofs.Lexicon.Vocabulary
import BargeIn.Proofs.Policy.Transition

/-!
# Calls of a handler

A handler is called with frames, at deadlines, and when the stream starts and stops, in any order
and at any time. Whatever the calls, its settings, those of the suppressor and the stop phrases it
knows stay what they were.
-/

set_option autoImplicit false

namespace BargeIn.Pipeline

namespace Handler

def classify (h : Handler) (f : Fragment) : Classification :=
  h.policy.classifier.classify f.text

theorem hear_silent (h : Handler) (s : Suppressor) (f : Fragment) (hn : h.session = none) :
    h.hear s f = (.ignore, h, if (h.classify f).isStop then s.arm f.receivedAt else s) := by
  obtain ⟨policy, session⟩ := h
  subst hn
  rfl

theorem hear_open (h : Handler) (s : Suppressor) (f : Fragment) (session : Session)
    (hs : h.session = some session) :
    h.hear s f =
      let (decision, next) := h.policy.config.transition f (h.classify f) session
      (decision, { h with session := some next },
        if (h.classify f).isStop && decision.isInterrupt then s.arm f.receivedAt else s) := by
  obtain ⟨policy, session⟩ := h
  subst hs
  rfl

/-- A stop command arms the suppressor unless the agent has been interrupted already. -/
theorem hear_suppressor (h : Handler) (s : Suppressor) (f : Fragment) :
    (h.hear s f).2.2 =
      if !h.isInterrupted && (h.classify f).isStop then s.arm f.receivedAt else s := by
  cases hs : h.session with
  | none => simp [hear_silent h s f hs, isInterrupted, hs]
  | some session =>
    rw [hear_open h s f session hs]
    cases hi : session.isInterrupted with
    | true =>
      rw [Policy.transition_interrupted _ f _ session hi]
      simp [isInterrupted, hs, hi, Decision.isInterrupt]
    | false =>
      cases hc : (h.classify f).isStop with
      | false => simp
      | true =>
        rw [Policy.transition_stop _ f _ session hi hc]
        simp [isInterrupted, hs, hi, Decision.isInterrupt]

end Handler

/-- A handler with the suppressor and the view of the conversation that it acts on. -/
structure Listener where
  handler : Handler
  suppressor : Suppressor
  conversation : Conversation

inductive Call
  | process (frame : Frame)
  | expire (now : Instant)
  | start
  | stop
deriving Repr, DecidableEq

namespace Listener

def config (l : Listener) : Policy.Config := l.handler.policy.config

def classifier (l : Listener) : Classifier := l.handler.policy.classifier

def vocabulary (l : Listener) : Vocabulary := l.classifier.vocabulary

def call (l : Listener) : Call → List Frame × Listener
  | .process f =>
    let (out, handler, suppressor, conversation) := l.handler.process l.suppressor l.conversation f
    (out, ⟨handler, suppressor, conversation⟩)
  | .expire now =>
    let (out, handler) := l.handler.expire now
    (out, { l with handler })
  | .start | .stop =>
    let (handler, suppressor) := l.handler.reset l.suppressor
    ([], { l with handler, suppressor })

def after (l : Listener) : List Call → Listener
  | [] => l
  | c :: cs => (l.call c).2.after cs

theorem after_append (l : Listener) (cs ds : List Call) :
    l.after (cs ++ ds) = (l.after cs).after ds := by
  induction cs generalizing l with
  | nil => rfl
  | cons c cs ih => exact ih (l.call c).2

theorem call_transcript_suppressor (l : Listener) (f : Fragment) :
    (l.call (.process (.transcript f))).2.suppressor =
      if !l.handler.isInterrupted && (l.handler.classify f).isStop
      then l.suppressor.arm f.receivedAt else l.suppressor :=
  Handler.hear_suppressor l.handler l.suppressor f

/-- What no call changes, or only by learning fillers. -/
structure Continues (l next : Listener) : Prop where
  config : next.config = l.config
  stops : next.vocabulary.stops = l.vocabulary.stops
  reachable : l.vocabulary.Reachable → next.vocabulary.Reachable
  phrases : next.suppressor.phrases = l.suppressor.phrases
  window : next.suppressor.window = l.suppressor.window

theorem Continues.refl (l : Listener) : Continues l l := ⟨rfl, rfl, id, rfl, rfl⟩

theorem Continues.trans {a b c : Listener} (hab : Continues a b) (hbc : Continues b c) :
    Continues a c :=
  ⟨hbc.config.trans hab.config, hbc.stops.trans hab.stops,
    fun h => hbc.reachable (hab.reachable h), hbc.phrases.trans hab.phrases,
    hbc.window.trans hab.window⟩

theorem hear_settings (h : Handler) (s : Suppressor) (f : Fragment) :
    (h.hear s f).2.2.phrases = s.phrases ∧ (h.hear s f).2.2.window = s.window := by
  rw [Handler.hear_suppressor]
  split <;> exact ⟨rfl, rfl⟩

theorem call_continues (l : Listener) (c : Call) : Continues l (l.call c).2 := by
  cases c with
  | start | stop => exact ⟨rfl, rfl, id, rfl, rfl⟩
  | expire now =>
    obtain ⟨⟨policy, session⟩, suppressor, conversation⟩ := l
    cases session <;> exact ⟨rfl, rfl, id, rfl, rfl⟩
  | process f =>
    cases f with
    | transcript f =>
      obtain ⟨hp, hw⟩ := hear_settings l.handler l.suppressor f
      exact ⟨rfl, rfl, id, hp, hw⟩
    | control control =>
      cases control with
      | reset => exact ⟨rfl, rfl, id, rfl, rfl⟩
      | addIgnoredWords words =>
        exact ⟨rfl, Vocabulary.addFillers_stops _ words, .extended words, rfl, rfl⟩
    | _ => exact ⟨rfl, rfl, id, rfl, rfl⟩

theorem after_continues (l : Listener) (calls : List Call) : Continues l (l.after calls) := by
  induction calls generalizing l with
  | nil => exact .refl l
  | cons c cs ih => exact (call_continues l c).trans (ih (l.call c).2)

end Listener

end BargeIn.Pipeline
