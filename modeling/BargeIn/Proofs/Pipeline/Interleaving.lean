import Mathlib.Control.Monad.Basic
import BargeIn.Proofs.Pipeline.Standard

/-!
# The two stages taking turns

The handler may take several frames before the filter takes the first of what comes of them, so
the suppressor can change ahead of speech that is still on its way. Whatever the turns, the same
frames come out in the same order, except that speech may be withheld or not. It is withheld as if
the frames went through one by one if the handler touches the suppressor only when no speech is on
its way; otherwise it may differ.
-/

set_option autoImplicit false

namespace BargeIn

def Frame.voiced : Frame → Frame
  | .acknowledgmentSuppressed text => .agentSpeech text
  | f => f

namespace Pipeline

namespace Listener

/-- The handler arms or disarms the suppressor when it takes the frame. -/
def Touches (l : Listener) : Frame → Prop
  | .transcript f => (!l.handler.isInterrupted && (l.handler.classify f).isStop) = true
  | .control .reset | .endOfStream => True
  | _ => False

def heard (l : Listener) : List Frame → List Frame
  | [] => []
  | f :: fs => (l.call (.process f)).1 ++ (l.call (.process f)).2.heard fs

def takeEach (l : Listener) (now : Instant) : List Frame → List (List Frame)
  | [] => []
  | f :: fs => (l.take now f).1 :: (l.take now f).2.takeEach now fs

theorem passages_takeEach (l : Listener) (now : Instant) (frames : List Frame) :
    (passages l.chain l.conversation (frames.map (now, ·))).map (·.result) =
      (l.takeEach now frames).map .ok := by
  induction frames generalizing l with
  | nil => rfl
  | cons f fs ih =>
    rw [List.map_cons, passages_cons, List.map_cons, ih]
    rfl

theorem call_untouched {l : Listener} {f : Frame} (h : ¬l.Touches f) :
    (l.call (.process f)).2.suppressor = l.suppressor := by
  cases f with
  | transcript f =>
    rw [call_transcript_suppressor]
    exact if_neg h
  | endOfStream => exact absurd trivial h
  | control control =>
    cases control with
    | reset => exact absurd trivial h
    | addIgnoredWords words => rfl
  | _ => rfl

theorem call_resettled (l : Listener) (s : Suppressor) (f : Frame) :
    (({ l with suppressor := s } : Listener).call (.process f)).1 = (l.call (.process f)).1 ∧
    ∃ s', (({ l with suppressor := s } : Listener).call (.process f)).2 =
      { (l.call (.process f)).2 with suppressor := s' } := by
  cases f with
  | transcript f =>
    cases hs : l.handler.session with
    | none =>
      simp only [call, Handler.process, Handler.hear_silent _ _ f hs]
      exact ⟨trivial, _, rfl⟩
    | some session =>
      simp only [call, Handler.process, Handler.hear_open _ _ f session hs]
      exact ⟨trivial, _, rfl⟩
  | control control => cases control <;> exact ⟨rfl, _, rfl⟩
  | _ => exact ⟨rfl, _, rfl⟩

theorem call_untouched_resettled {l : Listener} {f : Frame} (h : ¬l.Touches f) (s : Suppressor) :
    ({ l with suppressor := s } : Listener).call (.process f) =
      ((l.call (.process f)).1, { (l.call (.process f)).2 with suppressor := s }) := by
  obtain ⟨hout, s', hnext⟩ := l.call_resettled s f
  have hs : s' = s := by
    have hkept := call_untouched (l := { l with suppressor := s }) h
    rwa [hnext] at hkept
  exact Prod.ext hout (hs ▸ hnext)

theorem heard_resettled (l : Listener) (s : Suppressor) (frames : List Frame) :
    ({ l with suppressor := s } : Listener).heard frames = l.heard frames := by
  induction frames generalizing l s with
  | nil => rfl
  | cons f fs ih =>
    obtain ⟨hout, s', hnext⟩ := l.call_resettled s f
    rw [heard, heard, hout, hnext, ih]

end Listener

theorem process_voiced (s : Suppressor) (now : Instant) (f : Frame) :
    (Filter.process s now f).1.voiced = f.voiced := by
  cases f with
  | agentSpeech text =>
    simp only [Filter.process]
    rcases s.filter text now with ⟨verdict, s'⟩
    cases verdict <;> rfl
  | _ => rfl

def Filter.processAll (s : Suppressor) (now : Instant) : List Frame → List Frame × Suppressor
  | [] => ([], s)
  | f :: fs =>
    let (g, s) := Filter.process s now f
    let (gs, s) := Filter.processAll s now fs
    (g :: gs, s)

theorem processAll_append (s : Suppressor) (now : Instant) (fs gs : List Frame) :
    Filter.processAll s now (fs ++ gs) =
      let (out, s) := Filter.processAll s now fs
      let (out', s) := Filter.processAll s now gs
      (out ++ out', s) := by
  induction fs generalizing s with
  | nil => rfl
  | cons f fs ih => simp only [List.cons_append, Filter.processAll, ih]

theorem processAll_unspoken (s : Suppressor) (now : Instant) {frames : List Frame}
    (h : ∀ f ∈ frames, ∀ text, f ≠ .agentSpeech text) :
    Filter.processAll s now frames = (frames, s) := by
  induction frames with
  | nil => rfl
  | cons f fs ih =>
    have hf : Filter.process s now f = (f, s) := by
      cases f with
      | agentSpeech text => exact absurd rfl (h _ List.mem_cons_self text)
      | _ => rfl
    simp only [Filter.processAll, hf, ih fun g hg => h g (List.mem_cons_of_mem f hg)]

/-- The handler and the filter with the queue between them, the frames that wait for the handler
and those that have come out. -/
structure Tandem where
  input : List Frame
  listener : Listener
  between : List Frame := []
  output : List Frame := []

inductive Actor
  | handler
  | filter
deriving Repr, DecidableEq

namespace Tandem

def act (t : Tandem) (now : Instant) : Actor → Tandem
  | .handler =>
    match t.input with
    | [] => t
    | f :: fs =>
      let (out, listener) := t.listener.call (.process f)
      { t with input := fs, listener, between := t.between ++ out }
  | .filter =>
    match t.between with
    | [] => t
    | f :: fs =>
      let (g, suppressor) := Filter.process t.listener.suppressor now f
      { t with
        listener := { t.listener with suppressor }
        between := fs
        output := t.output ++ [g] }

def run (t : Tandem) (now : Instant) : List Actor → Tandem
  | [] => t
  | a :: as => (t.act now a).run now as

def isDone (t : Tandem) : Bool := t.input.isEmpty && t.between.isEmpty

/-- The handler touches the suppressor only when no speech is on its way. -/
def Orderly (now : Instant) : Tandem → List Actor → Prop
  | _, [] => True
  | t, a :: as =>
    (a = .handler → ∀ f ∈ t.input.head?, t.listener.Touches f →
      ∀ text, .agentSpeech text ∉ t.between) ∧ Orderly now (t.act now a) as

def told (t : Tandem) : List Frame :=
  (t.output ++ t.between ++ t.listener.heard t.input).map Frame.voiced

theorem act_told (t : Tandem) (now : Instant) (a : Actor) : (t.act now a).told = t.told := by
  obtain ⟨input, listener, between, output⟩ := t
  cases a with
  | handler =>
    cases input with
    | nil => rfl
    | cons f fs => simp [act, told, Listener.heard]
  | filter =>
    cases between with
    | nil => rfl
    | cons f fs => simp [act, told, process_voiced, Listener.heard_resettled]

theorem run_told (t : Tandem) (now : Instant) (as : List Actor) :
    (t.run now as).told = t.told := by
  induction as generalizing t with
  | nil => rfl
  | cons a as ih => exact (ih (t.act now a)).trans (t.act_told now a)

/-- All that is to come out if the frames between the stages are filtered now, and then each
further frame goes through both stages. -/
def finished (t : Tandem) (now : Instant) : List Frame :=
  let (out, suppressor) := Filter.processAll t.listener.suppressor now t.between
  t.output ++ out ++ (({ t.listener with suppressor } : Listener).takeEach now t.input).flatten

theorem act_filter_finished (t : Tandem) (now : Instant) :
    (t.act now .filter).finished now = t.finished now := by
  obtain ⟨input, listener, between, output⟩ := t
  cases between with
  | nil => rfl
  | cons f fs => simp [act, finished, Filter.processAll]

theorem act_handler_finished (t : Tandem) (now : Instant)
    (h : ∀ f ∈ t.input.head?, t.listener.Touches f → ∀ text, .agentSpeech text ∉ t.between) :
    (t.act now .handler).finished now = t.finished now := by
  obtain ⟨input, l, between, output⟩ := t
  cases input with
  | nil => rfl
  | cons f fs =>
    rcases speech_or_other f with ⟨text, rfl⟩ | hf
    · have hcall : l.call (.process (.agentSpeech text)) = ([.agentSpeech text], l) := rfl
      simp [act, finished, hcall, processAll_append, Filter.processAll, Listener.takeEach,
        Listener.take]
    · have hout := processAll_unspoken (l.call (.process f)).2.suppressor now (l.call_unspoken hf)
      by_cases ht : l.Touches f
      · have hbetween : ∀ g ∈ between, ∀ text, g ≠ .agentSpeech text :=
          fun g hg text he => h f rfl ht text (he ▸ hg)
        simp [act, finished, hout, processAll_append, processAll_unspoken _ now hbetween,
          Listener.takeEach, l.take_unspoken now hf]
      · have hkept := Listener.call_untouched ht
        simp only [act, finished, hkept, processAll_append,
          processAll_unspoken _ now (l.call_unspoken hf)]
        rw [Listener.takeEach, Listener.take_unspoken _ now hf,
          Listener.call_untouched_resettled ht (Filter.processAll l.suppressor now between).2]
        simp

theorem run_finished (t : Tandem) (now : Instant) (as : List Actor) (h : t.Orderly now as) :
    (t.run now as).finished now = t.finished now := by
  induction as generalizing t with
  | nil => rfl
  | cons a as ih =>
    obtain ⟨hhead, htail⟩ := h
    refine (ih (t.act now a) htail).trans ?_
    cases a with
    | handler => exact t.act_handler_finished now (hhead rfl)
    | filter => exact t.act_filter_finished now

theorem told_done {t : Tandem} (h : t.isDone = true) :
    t.told = t.output.map Frame.voiced := by
  obtain ⟨hinput, hbetween⟩ := Bool.and_eq_true_iff.mp h
  simp [told, List.isEmpty_iff.mp hinput, List.isEmpty_iff.mp hbetween, Listener.heard]

theorem finished_done {t : Tandem} (h : t.isDone = true) (now : Instant) :
    t.finished now = t.output := by
  obtain ⟨hinput, hbetween⟩ := Bool.and_eq_true_iff.mp h
  simp [finished, List.isEmpty_iff.mp hinput, List.isEmpty_iff.mp hbetween, Filter.processAll,
    Listener.takeEach]

end Tandem

theorem Listener.takeEach_told (l : Listener) (now : Instant) (frames : List Frame) :
    (l.takeEach now frames).flatten.map Frame.voiced = (l.heard frames).map Frame.voiced := by
  induction frames generalizing l with
  | nil => rfl
  | cons f fs ih =>
    rw [takeEach, heard, List.flatten_cons, List.map_append, List.map_append, ih]
    rcases speech_or_other f with ⟨text, rfl⟩ | hf
    · have hvoiced := process_voiced l.suppressor now (.agentSpeech text)
      simp only [take, List.map_cons, List.map_nil, hvoiced, heard_resettled]
      rfl
    · rw [l.take_unspoken now hf]

def Tandem.start (policy : Policy) (conversation : Conversation) (input : List Frame) : Tandem :=
  { input, listener := .fresh policy conversation }

/-- However the stages take turns, all that comes out is what comes out of the frames one by one,
as far as speech that is withheld counts as speech; and it is exactly that if the turns are
orderly. -/
theorem turns_agree (policy : Policy) (conversation : Conversation) (now : Instant)
    (input : List Frame) (turns : List Actor)
    (hdone : ((Tandem.start policy conversation input).run now turns).isDone = true) :
    let chain := interruptionChain policy
    let output := ((Tandem.start policy conversation input).run now turns).output
    ∃ outs : List (List Frame),
      (passages chain conversation (input.map (now, ·))).map (·.result) = outs.map .ok ∧
      output.map Frame.voiced = outs.flatten.map Frame.voiced ∧
      ((Tandem.start policy conversation input).Orderly now turns → output = outs.flatten) := by
  intro chain output
  have hpassages := (Listener.fresh policy conversation).passages_takeEach now input
  refine ⟨_, hpassages, ?_, ?_⟩
  · have htold := (Tandem.start policy conversation input).run_told now turns
    rw [Tandem.told_done hdone] at htold
    rw [Listener.takeEach_told]
    exact htold
  · intro horderly
    have hfinished := (Tandem.start policy conversation input).run_finished now turns horderly
    rw [Tandem.finished_done hdone] at hfinished
    exact hfinished

/-- An acknowledgment that follows a stop command is withheld although frames wait together. -/
theorem turns_agree_withheld :
    let policy : Policy :=
      ⟨{ acknowledgments := ["okay"] }, .umAndStop, by decide +kernel⟩
    let stop : Frame := .transcript { text := "Stop!", receivedAt := ⟨0⟩ }
    let start := Tandem.start policy {} [stop, .agentSpeech "Okay.", .endOfStream]
    let turns : List Actor := [.handler, .handler, .filter, .filter, .handler, .filter]
    (start.run ⟨0⟩ turns).isDone = true ∧
      (start.run ⟨0⟩ turns).output = [stop, .acknowledgmentSuppressed "Okay.", .endOfStream] ∧
      ∃ outs : List (List Frame),
        (passages (interruptionChain policy) {} (start.input.map (⟨0⟩, ·))).map (·.result) =
          outs.map .ok ∧
        outs.flatten.map Frame.voiced = [stop, .agentSpeech "Okay.", .endOfStream] := by
  intro policy stop start turns
  have hdone : (start.run ⟨0⟩ turns).isDone = true := by decide +kernel
  have hout : (start.run ⟨0⟩ turns).output =
      [stop, .acknowledgmentSuppressed "Okay.", .endOfStream] := by decide +kernel
  obtain ⟨outs, hresults, hvoiced, _⟩ := turns_agree policy {} ⟨0⟩ _ turns hdone
  exact ⟨hdone, hout, outs, hresults,
    hvoiced.symm.trans (congrArg (List.map Frame.voiced) hout)⟩

/-- The end of the stream right behind an acknowledgment can undo the stop command before the
filter sees the acknowledgment, and a stop command right behind an acknowledgment can withhold
it. -/
theorem turns_disagree :
    let policy : Policy :=
      ⟨{ acknowledgments := ["okay"] }, .umAndStop, by decide +kernel⟩
    let stop : Frame := .transcript { text := "Stop!", receivedAt := ⟨0⟩ }
    let ended := [stop, .agentSpeech "Okay.", .endOfStream]
    let early := [.agentSpeech "Okay.", stop]
    let oneByOne := fun input =>
      (passages (interruptionChain policy) {} (input.map (⟨0⟩, ·))).map (·.result)
    let late := (Tandem.start policy {} ended).run ⟨0⟩
      [.handler, .handler, .handler, .filter, .filter, .filter]
    let hasty := (Tandem.start policy {} early).run ⟨0⟩ [.handler, .handler, .filter, .filter]
    late.isDone = true ∧ late.output = ended ∧
      oneByOne ended = [.ok [stop], .ok [.acknowledgmentSuppressed "Okay."], .ok [.endOfStream]] ∧
    hasty.isDone = true ∧ hasty.output = [.acknowledgmentSuppressed "Okay.", stop] ∧
      oneByOne early = [.ok [.agentSpeech "Okay."], .ok [stop]] := by
  decide +kernel

end Pipeline

end BargeIn
