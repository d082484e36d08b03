import Mathlib.Control.Monad.Basic
import BargeIn.Proofs.Pipeline.Calls

/-!
# What is told of one utterance

Between two boundaries of a session a handler generates decisions in a fixed order: waits that
are taken back, then perhaps one more wait, then at most one interruption, which is the last.
Whether a wait is outstanding decides which interruptions can come, and the deadline that the
handler reports is that of the last wait as long as nothing follows it.
-/

set_option autoImplicit false

namespace BargeIn.Pipeline

namespace Call

def isBoundary : Call → Bool
  | .process (.utteranceStarted _) | .process .utteranceEnded | .process (.control .reset)
  | .process .endOfStream | .start | .stop => true
  | _ => false

def passedOn : Call → List Frame
  | .process (.control (.addIgnoredWords _)) => []
  | .process f => [f]
  | _ => []

def generated (c : Call) (out : List Frame) : List Frame :=
  out.take (out.length - c.passedOn.length)

theorem generated_append (c : Call) (out : List Frame) : c.generated (out ++ c.passedOn) = out := by
  simp [generated]

end Call

structure Event where
  cause : Call
  frame : Frame
deriving Repr, DecidableEq

def Event.deadline (e : Event) : Option Instant :=
  match e.frame with
  | .awaitingConfirmation deadline => some deadline
  | _ => none

def Listener.events (l : Listener) : List Call → List Event
  | [] => []
  | c :: cs => (c.generated (l.call c).1).map (.mk c) ++ (l.call c).2.events cs

/-- The interruptions that come without a wait. One for a deadline is among them only where the
deadline would lie beyond the last instant. -/
def AtOnce (timeout : Nat) (cause : Call) : Reason → Prop
  | .stopCommand | .meaningfulSpeech => True
  | .confirmed => False
  | .timeout => ∃ f, cause = .process (.transcript f) ∧ f.receivedAt.add? timeout = none

/-- What can be told of an utterance up to some moment. -/
inductive Told (timeout : Nat) : List Event → Prop
  | nothing : Told timeout []
  | waiting (cause : Call) (deadline : Instant) :
      Told timeout [⟨cause, .awaitingConfirmation deadline⟩]
  | falseAlarm (cause cause' : Call) (deadline : Instant) {later : List Event}
      (h : Told timeout later) :
      Told timeout (⟨cause, .awaitingConfirmation deadline⟩ :: ⟨cause', .resume⟩ :: later)
  | atOnce {cause : Call} {reason : Reason} {text : Option String}
      (hr : AtOnce timeout cause reason) (ht : text = none ↔ reason = .timeout) :
      Told timeout [⟨cause, .interrupt reason text⟩]
  | afterWait (cause cause' : Call) (deadline : Instant) {reason : Reason} {text : Option String}
      (hr : reason ≠ .meaningfulSpeech) (ht : text = none ↔ reason = .timeout) :
      Told timeout [⟨cause, .awaitingConfirmation deadline⟩, ⟨cause', .interrupt reason text⟩]

/-- One call within an utterance: the state before, the frames generated, the state after. -/
inductive Turn (timeout : Nat) (cause : Call) :
    Option SpeechState → List Frame → Option SpeechState → Prop
  | quiet (state : Option SpeechState) : Turn timeout cause state [] state
  | wait (since deadline : Instant) : Turn timeout cause (some .speaking)
      [.awaitingConfirmation deadline] (some (.pending since deadline))
  | resume (since deadline : Instant) : Turn timeout cause (some (.pending since deadline))
      [.resume] (some .speaking)
  | atOnce {reason : Reason} {text : Option String} (hr : AtOnce timeout cause reason)
      (ht : text = none ↔ reason = .timeout) :
      Turn timeout cause (some .speaking) [.interrupt reason text] (some (.interrupted reason))
  | afterWait (since deadline : Instant) {reason : Reason} {text : Option String}
      (hr : reason ≠ .meaningfulSpeech) (ht : text = none ↔ reason = .timeout) :
      Turn timeout cause (some (.pending since deadline)) [.interrupt reason text]
        (some (.interrupted reason))

theorem move_turn {c : Policy.Config} {f : Fragment} {heard : Classification}
    {state next : SpeechState} {decision : Decision} (h : Policy.Move c f heard state decision next) :
    Turn c.resumeTimeout (.process (.transcript f)) (some state)
      (decision.frame (some f.text)).toList (some next) := by
  cases h with
  | settled reason => exact .quiet _
  | barred => exact .quiet _
  | stop hi =>
    cases state with
    | interrupted reason => exact absurd hi.symm Bool.false_ne_true
    | speaking => exact .atOnce trivial (by simp)
    | pending since deadline => exact .afterWait since deadline (by simp) (by simp)
  | late => exact .afterWait _ _ (by simp) (by simp)
  | falseAlarm => exact .resume _ _
  | confirmed => exact .afterWait _ _ (by simp) (by simp)
  | meaningful => exact .atOnce trivial (by simp)
  | wait => exact .wait _ _
  | endless _ _ _ hd => exact .atOnce ⟨f, rfl, hd⟩ (by simp)

theorem Call.generated_expire (now : Instant) (out : List Frame) :
    (Call.expire now).generated out = out := by
  simp [Call.generated, Call.passedOn]

theorem Handler.deadline_eq (h : Handler) : h.deadline = h.state.bind (·.deadline) := by
  obtain ⟨policy, session⟩ := h
  cases session <;> rfl

namespace Listener

theorem call_output (l : Listener) (c : Call) :
    (l.call c).1 = c.generated (l.call c).1 ++ c.passedOn := by
  have hout : ∃ out, (l.call c).1 = out ++ c.passedOn := by
    cases c with
    | start => exact ⟨[], rfl⟩
    | stop => exact ⟨[], rfl⟩
    | expire now => exact ⟨_, (List.append_nil _).symm⟩
    | process f =>
      cases f with
      | transcript f => exact ⟨_, rfl⟩
      | control control => cases control <;> exact ⟨[], rfl⟩
      | _ => exact ⟨[], rfl⟩
  obtain ⟨out, hout⟩ := hout
  rw [hout, Call.generated_append]

theorem transcript_turn (l : Listener) (f : Fragment) :
    Turn l.config.resumeTimeout (.process (.transcript f)) l.handler.state
      ((l.handler.hear l.suppressor f).1.frame (some f.text)).toList
      (l.handler.hear l.suppressor f).2.1.state := by
  cases hs : l.handler.session with
  | none =>
    rw [Handler.hear_silent _ _ f hs]
    exact .quiet _
  | some session =>
    have hm := Policy.transition_move l.config f (l.handler.classify f) session
    have hstate : l.handler.state = some session.state := by simp [Handler.state, hs]
    rw [Handler.hear_open _ _ f session hs, hstate]
    exact move_turn hm

theorem expire_turn (h : Handler) (timeout : Nat) (now : Instant) :
    Turn timeout (.expire now) h.state (h.expire now).1 (h.expire now).2.state := by
  obtain ⟨policy, session⟩ := h
  cases session with
  | none => exact .quiet _
  | some session =>
    rcases Policy.poll_cases session now with ⟨hp, -⟩ | ⟨since, deadline, hs, -, hp⟩
    · simp only [Handler.expire, hp]
      exact .quiet _
    · simp only [Handler.expire, hp, Handler.state, Option.map_some, hs]
      exact .afterWait since deadline (by simp) (by simp)

theorem call_turn (l : Listener) (c : Call) (hb : c.isBoundary = false) :
    Turn l.config.resumeTimeout c l.handler.state (c.generated (l.call c).1)
      (l.call c).2.handler.state := by
  cases c with
  | start | stop => exact absurd hb.symm Bool.false_ne_true
  | expire now =>
    rw [Call.generated_expire]
    exact expire_turn l.handler _ now
  | process f =>
    cases f with
    | transcript f =>
      have ht := transcript_turn l f
      rwa [← Call.generated_append (.process (.transcript f)) (Option.toList _)] at ht
    | utteranceStarted | utteranceEnded | endOfStream => exact absurd hb.symm Bool.false_ne_true
    | control control =>
      cases control with
      | reset => exact absurd hb.symm Bool.false_ne_true
      | addIgnoredWords words => exact .quiet _
    | _ => exact .quiet _

theorem call_boundary (l : Listener) (c : Call) (hb : c.isBoundary = true) :
    c.generated (l.call c).1 = [] ∧
      ((l.call c).2.handler.state = none ∧ (∀ start, c ≠ .process (.utteranceStarted start)) ∨
        (l.call c).2.handler.state = some .speaking ∧
          ∃ start, c = .process (.utteranceStarted start)) := by
  cases c with
  | start | stop => exact ⟨rfl, Or.inl ⟨rfl, by simp⟩⟩
  | expire now => exact absurd hb Bool.false_ne_true
  | process f =>
    cases f with
    | utteranceStarted start => exact ⟨rfl, Or.inr ⟨rfl, start, rfl⟩⟩
    | utteranceEnded | endOfStream => exact ⟨rfl, Or.inl ⟨rfl, by simp⟩⟩
    | control control =>
      cases control with
      | reset => exact ⟨rfl, Or.inl ⟨rfl, by simp⟩⟩
      | addIgnoredWords words => exact absurd hb Bool.false_ne_true
    | _ => exact absurd hb Bool.false_ne_true

end Listener

theorem told_interrupt_last {timeout : Nat} {es : List Event} (h : Told timeout es) :
    es.Pairwise fun e _ => ∀ reason text, e.frame ≠ .interrupt reason text := by
  induction h with
  | nothing => exact .nil
  | waiting | atOnce => exact List.pairwise_singleton _ _
  | falseAlarm _ _ _ _ ih => exact .cons (by simp) (.cons (by simp) ih)
  | afterWait => exact .cons (by simp) (List.pairwise_singleton _ _)

/-- What can still be told of an utterance in a given state: with what a wait that is outstanding
has told already, it is something that can be told of an utterance. -/
def StillTold (timeout : Nat) : Option SpeechState → List Event → Prop
  | none, later => later = []
  | some .speaking, later => Told timeout later
  | some (.pending _ deadline), later =>
    ∀ cause, Told timeout (⟨cause, .awaitingConfirmation deadline⟩ :: later)
  | some (.interrupted _), later => later = []

theorem turn_stillTold {timeout : Nat} {cause : Call} {state next : Option SpeechState}
    {out : List Frame} {later : List Event} (ht : Turn timeout cause state out next)
    (h : StillTold timeout next later) :
    StillTold timeout state (out.map (.mk cause) ++ later) := by
  cases ht with
  | quiet => exact h
  | wait since deadline => exact h cause
  | resume since deadline => exact fun cause' => .falseAlarm cause' cause deadline h
  | atOnce hr ht =>
    obtain rfl : later = [] := h
    exact .atOnce hr ht
  | afterWait since deadline hr ht =>
    obtain rfl : later = [] := h
    exact fun cause' => .afterWait cause' cause deadline hr ht

theorem stillTold_nothing (timeout : Nat) (state : Option SpeechState) :
    StillTold timeout state [] := by
  match state with
  | none => rfl
  | some .speaking => exact .nothing
  | some (.pending _ deadline) => exact fun cause => .waiting cause deadline
  | some (.interrupted _) => rfl

theorem turn_isSome {timeout : Nat} {cause : Call} {state next : Option SpeechState}
    {out : List Frame} (ht : Turn timeout cause state out next) : next.isSome = state.isSome := by
  cases ht <;> rfl

def standing (before : Option Instant) (es : List Event) : Option Instant :=
  match es.getLast? with
  | some e => e.deadline
  | none => before

theorem standing_append (before : Option Instant) (es later : List Event) :
    standing before (es ++ later) = standing (standing before es) later := by
  unfold standing
  rw [List.getLast?_append]
  cases later.getLast? <;> rfl

theorem standing_none_iff (es : List Event) (deadline : Instant) :
    standing none es = some deadline ↔
      es.getLast?.map Event.frame = some (.awaitingConfirmation deadline) := by
  unfold standing
  cases es.getLast? with
  | none => simp
  | some e =>
    obtain ⟨cause, frame⟩ := e
    cases frame <;> simp [Event.deadline]

theorem turn_standing {timeout : Nat} {cause : Call} {state next : Option SpeechState}
    {out : List Frame} (ht : Turn timeout cause state out next) :
    next.bind (·.deadline) = standing (state.bind (·.deadline)) (out.map (.mk cause)) := by
  cases ht <;> rfl

namespace Listener

theorem events_stillTold (l : Listener) (calls : List Call)
    (hb : ∀ c ∈ calls, c.isBoundary = false) :
    StillTold l.config.resumeTimeout l.handler.state (l.events calls) := by
  induction calls generalizing l with
  | nil => exact stillTold_nothing _ _
  | cons c cs ih =>
    have hnext := ih (l.call c).2 fun d hd => hb d (List.mem_cons_of_mem c hd)
    rw [(call_continues l c).config] at hnext
    exact turn_stillTold (call_turn l c (hb c List.mem_cons_self)) hnext

theorem after_isSome (l : Listener) (calls : List Call) (hb : ∀ c ∈ calls, c.isBoundary = false) :
    (l.after calls).handler.state.isSome = l.handler.state.isSome := by
  induction calls generalizing l with
  | nil => rfl
  | cons c cs ih =>
    have hnext := ih (l.call c).2 fun d hd => hb d (List.mem_cons_of_mem c hd)
    exact hnext.trans (turn_isSome (call_turn l c (hb c List.mem_cons_self)))

theorem after_deadline (l : Listener) (calls : List Call)
    (hb : ∀ c ∈ calls, c.isBoundary = false) :
    (l.after calls).handler.deadline = standing l.handler.deadline (l.events calls) := by
  induction calls generalizing l with
  | nil => rfl
  | cons c cs ih =>
    have hnext := ih (l.call c).2 fun d hd => hb d (List.mem_cons_of_mem c hd)
    have ht := turn_standing (call_turn l c (hb c List.mem_cons_self))
    rw [← Handler.deadline_eq, ← Handler.deadline_eq] at ht
    rw [events, standing_append, ← ht]
    exact hnext

theorem opened_state (l : Listener) (hn : l.handler.session = none) (before : List Call)
    (ho : ∀ c ∈ before.getLast?, c.isBoundary = true) :
    ((l.after before).handler.state = none ∧
        ∀ start, before.getLast? ≠ some (.process (.utteranceStarted start))) ∨
      ((l.after before).handler.state = some .speaking ∧
        ∃ start, before.getLast? = some (.process (.utteranceStarted start))) := by
  cases hl : before.getLast? with
  | none =>
    rw [List.getLast?_eq_none_iff.mp hl]
    exact Or.inl ⟨by simp [after, Handler.state, hn], by simp⟩
  | some c =>
    obtain ⟨cs, rfl⟩ := List.getLast?_eq_some_iff.mp hl
    simpa [after_append, after] using ((l.after cs).call_boundary c (ho c hl)).2

/-- The decisions between two boundaries, at any point on the way from one to the other. -/
theorem utterance_grammar (policy : Policy) (suppressor : Suppressor) (conversation : Conversation)
    (before between : List Call) (ho : ∀ c ∈ before.getLast?, c.isBoundary = true)
    (hb : ∀ c ∈ between, c.isBoundary = false) :
    let opened := Listener.after ⟨⟨policy, none⟩, suppressor, conversation⟩ before
    let l := opened.after between
    let told := opened.events between
    (l.handler.state.isSome = true ↔
      ∃ start, before.getLast? = some (.process (.utteranceStarted start))) ∧
    (l.handler.state = none → told = []) ∧
    Told policy.config.resumeTimeout told ∧
    told.Pairwise (fun e _ => ∀ reason text, e.frame ≠ .interrupt reason text) ∧
    (∀ deadline, l.handler.deadline = some deadline ↔
      told.getLast?.map Event.frame = some (.awaitingConfirmation deadline)) ∧
    (∀ c : Call, (l.call c).1 = c.generated (l.call c).1 ++ c.passedOn) ∧
    ∀ c : Call, c.isBoundary = true → c.generated (l.call c).1 = [] := by
  intro opened l told
  have hconfig : opened.config = policy.config := (after_continues _ before).config
  have hstill : StillTold policy.config.resumeTimeout opened.handler.state told :=
    hconfig ▸ events_stillTold opened between hb
  have hsome : l.handler.state.isSome = opened.handler.state.isSome := after_isSome opened between hb
  have hdeadline : l.handler.deadline = standing (opened.handler.state.bind (·.deadline)) told :=
    opened.handler.deadline_eq ▸ after_deadline opened between hb
  have hsilent : ∀ c : Call, c.isBoundary = true → c.generated (l.call c).1 = [] :=
    fun c hc => (l.call_boundary c hc).1
  rcases opened_state ⟨⟨policy, none⟩, suppressor, conversation⟩ rfl before ho with
    ⟨hs, hf⟩ | ⟨hs, hf⟩
  · rw [hs] at hsome hdeadline hstill
    have hnil : told = [] := hstill
    refine ⟨by simpa [hsome] using hf, fun _ => hnil, ?_, ?_, ?_, l.call_output, hsilent⟩
    · exact hnil ▸ .nothing
    · exact hnil ▸ .nil
    · exact fun deadline => hdeadline ▸ standing_none_iff told deadline
  · rw [hs] at hsome hdeadline hstill
    refine ⟨by simpa [hsome] using hf, fun hn => ?_, hstill, told_interrupt_last hstill, ?_,
      l.call_output, hsilent⟩
    · rw [hn] at hsome
      exact absurd hsome Bool.false_ne_true
    · exact fun deadline => hdeadline ▸ standing_none_iff told deadline

/-- A false alarm, then a wait that one call at a deadline leaves alone and the next one ends. -/
theorem utterance_grammar_timeout :
    let policy : Policy :=
      ⟨{}, ⟨⟨[("um", none)], ["hold on"], 1, 2⟩, true⟩, by decide +kernel⟩
    let before : List Call := [.process (.utteranceStarted ⟨0⟩)]
    let between : List Call :=
      [.process (.transcript { text := "Um", receivedAt := ⟨0⟩ }),
        .process (.transcript { text := "um?", receivedAt := ⟨1000000000⟩ }),
        .process (.transcript { text := "well", receivedAt := ⟨1000000000⟩ }),
        .expire ⟨2000000000⟩, .expire ⟨3000000000⟩]
    let opened := Listener.after ⟨⟨policy, none⟩, .ofConfig {}, {}⟩ before
    (∀ c ∈ before.getLast?, c.isBoundary = true) ∧ (∀ c ∈ between, c.isBoundary = false) ∧
      (opened.events between).map Event.frame =
        [.awaitingConfirmation ⟨2000000000⟩, .resume, .awaitingConfirmation ⟨3000000000⟩,
          .interrupt .timeout none] ∧
      Told 2000000000 (opened.events between) := by
  intro policy before between opened
  have ho : ∀ c ∈ before.getLast?, c.isBoundary = true := by decide
  have hb : ∀ c ∈ between, c.isBoundary = false := by decide
  have ht : policy.config.resumeTimeout = 2000000000 := by decide +kernel
  obtain ⟨_, _, htold, _⟩ := utterance_grammar policy (.ofConfig {}) {} before between ho hb
  exact ⟨ho, hb, by decide +kernel, ht ▸ htold⟩

end Listener

end BargeIn.Pipeline
