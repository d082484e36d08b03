import BargeIn.Proofs.Pipeline.Calls
import BargeIn.Proofs.Policy.Suppressor

/-!
# Frames through the standard chain

The handler lets the agent's own speech through as it is and adds none, and the filter touches
nothing else. So each frame is treated by one of the two alone: speech of the agent by the
suppressor, every other frame by the handler.
-/

set_option autoImplicit false

namespace BargeIn.Pipeline

section

variable {σ ω : Type} [Processor σ ω]

/-- A frame's way through a chain: the clock, the chain before and after, and what came out. -/
structure Passage (σ ω : Type) where
  now : Instant
  frame : Frame
  before : Chain σ ω
  result : Except Fault (List Frame)
  after : Chain σ ω

/-- The passages of frames that a chain takes one at a time, each at its own clock reading. -/
def passages (chain : Chain σ ω) (conversation : Conversation) :
    List (Instant × Frame) → List (Passage σ ω)
  | [] => []
  | (now, frame) :: inputs =>
    let (result, next, conversation) := chain.processOne conversation now frame
    ⟨now, frame, chain, result, next⟩ :: passages next conversation inputs

theorem passages_inputs (chain : Chain σ ω) (conversation : Conversation)
    (inputs : List (Instant × Frame)) :
    (passages chain conversation inputs).map (fun p => (p.now, p.frame)) = inputs := by
  induction inputs generalizing chain conversation with
  | nil => rfl
  | cons input inputs ih => exact congrArg (input :: ·) (ih _ _)

theorem passages_length (chain : Chain σ ω) (conversation : Conversation)
    (inputs : List (Instant × Frame)) :
    (passages chain conversation inputs).length = inputs.length := by
  simpa using congrArg List.length (passages_inputs chain conversation inputs)

end

theorem speech_or_other (f : Frame) :
    (∃ text, f = .agentSpeech text) ∨ ∀ text, f ≠ .agentSpeech text := by
  cases f with
  | agentSpeech text => exact Or.inl ⟨text, rfl⟩
  | _ => exact Or.inr (by simp)

theorem feed_filter (w : Shared) (c : Conversation) (now : Instant) (frames : List Frame)
    (h : ∀ f ∈ frames, ∀ text, f ≠ .agentSpeech text) :
    feed Stage.filter w c now frames = ⟨.filter, w, c, .ok frames⟩ := by
  induction frames with
  | nil => rfl
  | cons f fs ih =>
    have hf : Processor.process Stage.filter w c now f = ⟨.filter, w, c, .ok [f]⟩ := by
      cases f with
      | agentSpeech text => exact absurd rfl (h _ List.mem_cons_self text)
      | _ => rfl
    have hfs := ih fun g hg => h g (List.mem_cons_of_mem f hg)
    simp only [feed, hf, hfs]
    rfl

theorem decision_frame_isDecision {decision : Decision} {text : Option String} {f : Frame}
    (h : decision.frame text = some f) : f.isDecision = true := by
  cases decision with
  | ignore => cases h
  | interrupt reason => cases reason <;> cases h <;> rfl
  | resume | wait => cases h; rfl

theorem decision_frame_unspoken {decision : Decision} {text : Option String} {f : Frame}
    (h : decision.frame text = some f) (speech : String) : f ≠ .agentSpeech speech := by
  rintro rfl
  cases decision_frame_isDecision h

namespace Listener

def stage (l : Listener) : Stage :=
  .handler { SharedHandler.ofPolicy l.handler.policy 0 with session := l.handler.session }

def world (l : Listener) : Shared :=
  ⟨l.suppressor, [l.vocabulary]⟩

def chain (l : Listener) : Chain Stage Shared :=
  ⟨"interruption", [l.stage, .filter], l.world⟩

def fresh (policy : Policy) (conversation : Conversation) : Listener :=
  ⟨⟨policy, none⟩, .ofConfig policy.config, conversation⟩

def take (l : Listener) (now : Instant) : Frame → List Frame × Listener
  | .agentSpeech text =>
    let (frame, suppressor) := Filter.process l.suppressor now (.agentSpeech text)
    ([frame], { l with suppressor })
  | f => l.call (.process f)

theorem take_unspoken (l : Listener) (now : Instant) {f : Frame}
    (h : ∀ text, f ≠ .agentSpeech text) : l.take now f = l.call (.process f) := by
  cases f with
  | agentSpeech text => exact absurd rfl (h text)
  | _ => rfl

theorem take_speech (l : Listener) (now : Instant) (text : String) :
    l.take now (.agentSpeech text) =
      ([match (l.suppressor.filter text now).1 with
        | .suppress => .acknowledgmentSuppressed text
        | .speak => .agentSpeech text],
        { l with suppressor := (l.suppressor.filter text now).2 }) := by
  simp only [take, Filter.process]
  rcases l.suppressor.filter text now with ⟨verdict, s⟩
  cases verdict <;> rfl

theorem call_unspoken (l : Listener) {f : Frame} (h : ∀ text, f ≠ .agentSpeech text) :
    ∀ g ∈ (l.call (.process f)).1, ∀ text, g ≠ .agentSpeech text := by
  cases f with
  | transcript f =>
    intro g hg
    rcases List.mem_append.mp hg with hd | hf
    · exact decision_frame_unspoken (Option.mem_toList.mp hd)
    · rw [List.mem_singleton.mp hf]
      exact h
  | control control =>
    cases control with
    | reset => exact fun g hg => List.mem_singleton.mp hg ▸ h
    | addIgnoredWords words => exact fun g hg => absurd hg List.not_mem_nil
  | _ => exact fun g hg => List.mem_singleton.mp hg ▸ h

theorem stage_process (l : Listener) (now : Instant) (f : Frame) :
    Processor.process l.stage l.world l.conversation now f =
      (⟨(l.call (.process f)).2.stage, (l.call (.process f)).2.world,
        (l.call (.process f)).2.conversation, .ok (l.call (.process f)).1⟩ :
          Effect Stage Shared) := by
  cases f with
  | control control => cases control <;> rfl
  | _ => rfl

theorem stage_expire (l : Listener) (now : Instant) :
    Processor.expire l.stage l.world l.conversation now =
      (⟨(l.call (.expire now)).2.stage, (l.call (.expire now)).2.world,
        (l.call (.expire now)).2.conversation, .ok (l.call (.expire now)).1⟩ :
          Effect Stage Shared) := by
  obtain ⟨⟨policy, session⟩, suppressor, conversation⟩ := l
  cases session <;> rfl

theorem chain_processOne (l : Listener) (now : Instant) (f : Frame) :
    l.chain.processOne l.conversation now f =
      (.ok (l.take now f).1, (l.take now f).2.chain, (l.take now f).2.conversation) := by
  rcases speech_or_other f with ⟨text, rfl⟩ | hf
  · rfl
  · rw [take_unspoken l now hf]
    have hhandler : feed l.stage l.world l.conversation now [f] =
        (⟨(l.call (.process f)).2.stage, (l.call (.process f)).2.world,
          (l.call (.process f)).2.conversation, .ok (l.call (.process f)).1⟩ :
            Effect Stage Shared) := by
      simp only [feed, l.stage_process, Except.map, List.append_nil]
    have hfilter := feed_filter (l.call (.process f)).2.world
      (l.call (.process f)).2.conversation now _ (call_unspoken l hf)
    simp only [Chain.processOne, chain, pass, hhandler, hfilter]

def passage (l : Listener) (now : Instant) (f : Frame) : Passage Stage Shared :=
  ⟨now, f, l.chain, .ok (l.take now f).1, (l.take now f).2.chain⟩

theorem passages_cons (l : Listener) (now : Instant) (f : Frame)
    (inputs : List (Instant × Frame)) :
    passages l.chain l.conversation ((now, f) :: inputs) =
      l.passage now f ::
        passages (l.take now f).2.chain (l.take now f).2.conversation inputs := by
  simp only [passages, chain_processOne]
  rfl

theorem take_continues (l : Listener) (now : Instant) (f : Frame) :
    Continues l (l.take now f).2 := by
  rcases speech_or_other f with ⟨text, rfl⟩ | hf
  · obtain ⟨hp, hw⟩ := l.suppressor.filter_settings text now
    rw [take_speech]
    exact ⟨rfl, rfl, id, hp, hw⟩
  · rw [take_unspoken l now hf]
    exact call_continues l (.process f)

end Listener

end BargeIn.Pipeline
