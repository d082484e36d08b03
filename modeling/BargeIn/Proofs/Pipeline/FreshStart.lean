import Mathlib.Control.Monad.Basic
import BargeIn.Proofs.Pipeline.Standard
import BargeIn.Proofs.Pipeline.Utterances

/-!
# Fresh starts

A reset and the end of the stream leave the standard chain as it was built, but for the fillers
that its classifier has learned since. What a handler tells of an utterance depends on nothing
that came before its start, the fillers again apart.
-/

set_option autoImplicit false

namespace BargeIn

def Policy.taught (p : Policy) : Frame → Policy
  | .control (.addIgnoredWords words) => (p.addIgnoredWords words).1
  | _ => p

namespace Pipeline

def Call.frame : Call → Option Frame
  | .process f => some f
  | _ => none

namespace Listener

/-! ## What the handler depends on -/

theorem call_congr {l m : Listener} (h : l.handler = m.handler) (c : Call) :
    (l.call c).1 = (m.call c).1 ∧ (l.call c).2.handler = (m.call c).2.handler := by
  obtain ⟨handler, s, conversation⟩ := l
  obtain ⟨handler', s', conversation'⟩ := m
  obtain rfl : handler = handler' := h
  cases c with
  | expire | start | stop => exact ⟨rfl, rfl⟩
  | process f =>
    cases f with
    | transcript f => exact ⟨rfl, rfl⟩
    | control control => cases control <;> exact ⟨rfl, rfl⟩
    | _ => exact ⟨rfl, rfl⟩

theorem after_congr {l m : Listener} (h : l.handler = m.handler) (calls : List Call) :
    l.events calls = m.events calls ∧ (l.after calls).handler = (m.after calls).handler := by
  induction calls generalizing l m with
  | nil => exact ⟨rfl, h⟩
  | cons c cs ih =>
    obtain ⟨hout, hnext⟩ := call_congr h c
    obtain ⟨hevents, hafter⟩ := ih hnext
    constructor
    · rw [events, events, hout, hevents]
    · exact hafter

theorem call_policy (l : Listener) (f : Frame) :
    (l.call (.process f)).2.handler.policy = l.handler.policy.taught f := by
  cases f with
  | control control => cases control <;> rfl
  | _ => rfl

theorem after_policy (l : Listener) (calls : List Call) :
    (l.after calls).handler.policy =
      (calls.filterMap Call.frame).foldl Policy.taught l.handler.policy := by
  induction calls generalizing l with
  | nil => rfl
  | cons c cs ih =>
    rw [after, ih]
    cases c with
    | process f =>
      rw [call_policy]
      rfl
    | expire now =>
      have hkept : (l.call (.expire now)).2.handler.policy = l.handler.policy := by
        obtain ⟨⟨policy, session⟩, s, conversation⟩ := l
        cases session <;> rfl
      rw [hkept]
      rfl
    | start | stop => rfl

/-! ## What the chain depends on -/

theorem take_unheeding (l : Listener) (c : Conversation) (now : Instant) (f : Frame) :
    ∃ c', ({ l with conversation := c } : Listener).take now f =
      ((l.take now f).1, { (l.take now f).2 with conversation := c' }) := by
  cases f with
  | control control => cases control <;> exact ⟨_, rfl⟩
  | _ => exact ⟨_, rfl⟩

/-- What comes out of the chain does not depend on the view of the conversation. -/
theorem passages_unheeding (l : Listener) (c : Conversation) (inputs : List (Instant × Frame)) :
    (passages l.chain c inputs).map (·.result) =
      (passages l.chain l.conversation inputs).map (·.result) := by
  induction inputs generalizing l c with
  | nil => rfl
  | cons input inputs ih =>
    obtain ⟨now, f⟩ := input
    obtain ⟨c', htake⟩ := l.take_unheeding c now f
    have hcons := passages_cons { l with conversation := c } now f inputs
    have hlater := ih (l.take now f).2 c'
    rw [htake] at hcons
    rw [passages_cons]
    simp only [List.map_cons]
    rw [← hlater]
    have hresults := congrArg (List.map Passage.result) hcons
    simp only [List.map_cons, passage, htake] at hresults
    exact hresults

def afterEach (l : Listener) : List (Instant × Frame) → Listener
  | [] => l
  | (now, f) :: inputs => (l.take now f).2.afterEach inputs

theorem passages_append (l : Listener) (inputs later : List (Instant × Frame)) :
    passages l.chain l.conversation (inputs ++ later) =
      passages l.chain l.conversation inputs ++
        passages (l.afterEach inputs).chain (l.afterEach inputs).conversation later := by
  induction inputs generalizing l with
  | nil => rfl
  | cons input inputs ih =>
    obtain ⟨now, f⟩ := input
    rw [List.cons_append, passages_cons, passages_cons, ih]
    rfl

theorem take_policy (l : Listener) (now : Instant) (f : Frame) :
    (l.take now f).2.handler.policy = l.handler.policy.taught f := by
  rcases speech_or_other f with ⟨text, rfl⟩ | hf
  · rfl
  · rw [l.take_unspoken now hf, call_policy]

theorem afterEach_settings (l : Listener) (inputs : List (Instant × Frame)) :
    (l.afterEach inputs).handler.policy =
        (inputs.map Prod.snd).foldl Policy.taught l.handler.policy ∧
      Continues l (l.afterEach inputs) := by
  induction inputs generalizing l with
  | nil => exact ⟨rfl, .refl l⟩
  | cons input inputs ih =>
    obtain ⟨now, f⟩ := input
    obtain ⟨hpolicy, hcontinues⟩ := ih (l.take now f).2
    rw [take_policy] at hpolicy
    exact ⟨hpolicy, (l.take_continues now f).trans hcontinues⟩

theorem disarm_built {l : Listener} {policy : Policy} {conversation : Conversation}
    (h : Continues (fresh policy conversation) l) :
    l.suppressor.disarm = .ofConfig l.handler.policy.config := by
  have hconfig : l.handler.policy.config = policy.config := h.config
  have hphrases : l.suppressor.phrases = (Suppressor.ofConfig policy.config).phrases := h.phrases
  have hwindow : l.suppressor.window = (Suppressor.ofConfig policy.config).window := h.window
  rw [Suppressor.disarm, hphrases, hwindow, hconfig]
  rfl

theorem take_reset {l : Listener} {policy : Policy} {conversation : Conversation}
    (h : Continues (fresh policy conversation) l) (now : Instant) {f : Frame}
    (hf : f = .control .reset ∨ f = .endOfStream) :
    (l.take now f).2.chain = interruptionChain l.handler.policy := by
  have hreset : (l.take now f).2.chain = ⟨"interruption",
      [.handler (.ofPolicy l.handler.policy 0), .filter], ⟨l.suppressor.disarm, [l.vocabulary]⟩⟩ := by
    rcases hf with rfl | rfl <;> rfl
  rw [hreset, disarm_built h]
  rfl

theorem passages_later (l : Listener) (before : List (Instant × Frame)) (now : Instant)
    (f : Frame) (later : List (Instant × Frame)) :
    let log := passages l.chain l.conversation (before ++ (now, f) :: later)
    let next := ((l.afterEach before).take now f).2
    log[before.length]? = some ((l.afterEach before).passage now f) ∧
      log.drop (before.length + 1) = passages next.chain next.conversation later := by
  intro log next
  let earlier := passages l.chain l.conversation before
  have hlog : log = earlier ++ ((l.afterEach before).passage now f ::
      passages next.chain next.conversation later) := by
    rw [← passages_cons]
    exact l.passages_append before _
  have hlength : earlier.length = before.length := passages_length _ _ before
  rw [hlog, ← hlength]
  constructor
  · rw [List.getElem?_append_right (Nat.le_refl _), Nat.sub_self]
    rfl
  · rw [List.drop_length_add_append]
    rfl

/-- A handler does not remember what came before the start of an utterance. -/
theorem opened_handler (l : Listener) (suppressor : Suppressor) (conversation : Conversation)
    (calls : List Call) (start : Instant) :
    (l.after (calls ++ [.process (.utteranceStarted start)])).handler =
      ((Listener.mk ⟨(calls.filterMap Call.frame).foldl Policy.taught l.handler.policy, none⟩
        suppressor conversation).after [.process (.utteranceStarted start)]).handler := by
  rw [after_append]
  exact congrArg (fun p => (⟨p, some (.start start)⟩ : Handler)) (l.after_policy calls)

end Listener

/-- After a reset or the end of the stream the chain yields what a new one yields whose classifier
has learned the same fillers; after the start of an utterance a handler tells what one tells that
has heard of no other. -/
theorem starts_afresh (policy : Policy) (conversation : Conversation)
    (before : List (Instant × Frame)) (now : Instant) (f : Frame)
    (hf : f = .control .reset ∨ f = .endOfStream) :
    let taught := (before.map Prod.snd).foldl Policy.taught policy
    taught.config = policy.config ∧
    (∀ later : List (Instant × Frame),
      let log := passages (interruptionChain policy) conversation (before ++ (now, f) :: later)
      (log[before.length]?).map (·.after) = some (interruptionChain taught) ∧
      ∀ context, (log.drop (before.length + 1)).map (·.result) =
        (passages (interruptionChain taught) context later).map (·.result)) ∧
    ∀ (suppressor suppressor' : Suppressor) (context : Conversation) (calls later : List Call)
      (start : Instant),
      let opened := (Listener.mk ⟨policy, none⟩ suppressor conversation).after
        (calls ++ [.process (.utteranceStarted start)])
      let first := (Listener.mk ⟨(calls.filterMap Call.frame).foldl Policy.taught policy, none⟩
        suppressor' context).after [.process (.utteranceStarted start)]
      opened.events later = first.events later ∧
        (opened.after later).handler.deadline = (first.after later).handler.deadline := by
  intro taught
  let fresh := Listener.fresh policy conversation
  obtain ⟨hpolicy, hcontinues⟩ := fresh.afterEach_settings before
  have hreset : ((fresh.afterEach before).take now f).2.chain = interruptionChain taught := by
    rw [Listener.take_reset hcontinues now hf, hpolicy]
    rfl
  refine ⟨?_, ?_, ?_⟩
  · have hconfig : (fresh.afterEach before).handler.policy.config = policy.config :=
      hcontinues.config
    rwa [hpolicy] at hconfig
  · intro later log
    obtain ⟨hpassage, hlater⟩ := fresh.passages_later before now f later
    constructor
    · exact (congrArg (Option.map (·.after)) hpassage).trans (congrArg some hreset)
    · intro context
      have hunheeding := ((fresh.afterEach before).take now f).2.passages_unheeding context later
      rw [hreset] at hunheeding
      rw [hreset] at hlater
      exact (congrArg (List.map (·.result)) hlater).trans hunheeding.symm
  · intro suppressor suppressor' context calls later start opened first
    have hsame : opened.handler = first.handler :=
      Listener.opened_handler ⟨⟨policy, none⟩, suppressor, conversation⟩ suppressor' context calls
        start
    obtain ⟨hevents, hafter⟩ := Listener.after_congr hsame later
    exact ⟨hevents, congrArg Handler.deadline hafter⟩

/-- Of an utterance interrupted by a stop command, only a filler learned in it is left. -/
theorem starts_afresh_interrupted :
    let policy : Policy :=
      ⟨{ acknowledgments := ["sure"] }, .umAndStop, by decide +kernel⟩
    let before : List (Instant × Frame) :=
      [(⟨0⟩, .utteranceStarted ⟨0⟩), (⟨1⟩, .control (.addIgnoredWords ["right"])),
        (⟨2⟩, .transcript { text := "Stop!", receivedAt := ⟨2⟩ })]
    let speech : Fragment :=
      { text := "Um, right.", receivedAt := ⟨6⟩, duration := some 600000000 }
    let command : Fragment := { text := "Please stop.", receivedAt := ⟨7⟩ }
    let later : List (Instant × Frame) :=
      [(⟨4⟩, .agentSpeech "Sure."), (⟨5⟩, .utteranceStarted ⟨5⟩), (⟨6⟩, .transcript speech),
        (⟨7⟩, .transcript command)]
    let log := passages (interruptionChain policy) {} (before ++ (⟨3⟩, .control .reset) :: later)
    (Frame.control .reset = .control .reset ∨ Frame.control .reset = .endOfStream) ∧
      (log.drop 4).map (·.result) =
        [.ok [.agentSpeech "Sure."], .ok [.utteranceStarted ⟨5⟩],
          .ok [.awaitingConfirmation ⟨2000000006⟩, .transcript speech],
          .ok [.interrupt .stopCommand (some "Please stop."), .transcript command]] := by
  intro policy before speech command later log
  obtain ⟨_, hafresh, _⟩ := starts_afresh policy {} before ⟨3⟩ (.control .reset) (Or.inl rfl)
  constructor
  · exact Or.inl rfl
  · have hresults := (hafresh later).2 {}
    apply hresults.trans
    decide +kernel

end Pipeline

end BargeIn
