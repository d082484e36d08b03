import Mathlib.Control.Monad.Basic
import BargeIn.Proofs.Pipeline.Utterances
import BargeIn.Proofs.Policy.Sessions

/-!
# Where interruptions are barred

Settings that bar interruptions leave stop commands in force, and them alone. An utterance is spoken
until the first stop command and is interrupted by it; no deadline ever stands, so the clock makes
no difference. What the command itself brings about does not depend on the bar.
-/

set_option autoImplicit false

namespace BargeIn

def Session.commanded (s : Session) (heard : Bool) : Session :=
  if heard then s.interrupt .stopCommand else s

theorem Session.commanded_deadline {s : Session} (hs : s.state = .speaking) (heard : Bool) :
    (s.commanded heard).deadline = none := by
  cases heard with
  | true => rfl
  | false => exact congrArg SpeechState.deadline hs

namespace Policy

def obeys (p : Policy) (f : Fragment) : Bool :=
  (p.classifier.classify f.text).isStop

def obeysInput (p : Policy) : Input → Bool
  | .fragment f => p.obeys f
  | .poll _ => false

/-- The policy under settings that differ only in that they allow interruptions. -/
def permissive (p : Policy) : Policy :=
  ⟨{ p.config with allowInterruptions := true }, p.classifier, p.valid⟩

theorem decide_command (p : Policy) (f : Fragment) {s : Session} (hs : s.state = .speaking)
    (hf : p.obeys f = true) :
    p.decide f s = (⟨.interrupt .stopCommand, true, p.classifier.classify f.text⟩,
      s.interrupt .stopCommand) := by
  have hi : s.isInterrupted = false := by rw [Session.isInterrupted, hs]; rfl
  have hheard : (p.classifier.classify f.text).isStop = true := hf
  have ht := transition_stop p.config f (p.classifier.classify f.text) s hi hheard
  simp [decide, ht, hheard, Decision.isInterrupt]

section

variable (p : Policy) (ha : p.config.allowInterruptions = false)
include ha

theorem decide_barred (f : Fragment) {s : Session} (hs : s.state = .speaking) (heard : Bool) :
    p.decide f (s.commanded heard) =
      (⟨if !heard && p.obeys f then .interrupt .stopCommand else .ignore, !heard && p.obeys f,
        p.classifier.classify f.text⟩, s.commanded (heard || p.obeys f)) := by
  cases heard with
  | true =>
    have ht := transition_interrupted p.config f (p.classifier.classify f.text)
      (s.interrupt .stopCommand) rfl
    simp [decide, Session.commanded, ht, Decision.isInterrupt]
  | false =>
    cases hf : p.obeys f with
    | true =>
      rw [Session.commanded, if_neg Bool.false_ne_true, p.decide_command f hs hf]
      rfl
    | false =>
      have ht := transition_barred p.config f (p.classifier.classify f.text) s hf ha
      simp [decide, Session.commanded, ht, Decision.isInterrupt]

omit ha in
theorem poll_commanded {s : Session} (hs : s.state = .speaking) (heard : Bool) (now : Instant) :
    poll (s.commanded heard) now = (none, s.commanded heard) := by
  cases heard with
  | true => exact poll_interrupted _ now rfl
  | false => simp [poll, Session.commanded, hs]

theorem meet_barred {s : Session} (hs : s.state = .speaking) (heard : Bool) (input : Input) :
    (p.meet (s.commanded heard) input).2 = s.commanded (heard || p.obeysInput input) := by
  cases input with
  | fragment f => exact congrArg Prod.snd (p.decide_barred ha f hs heard)
  | poll now =>
    rw [obeysInput, Bool.or_false]
    exact congrArg Prod.snd (poll_commanded hs heard now)

theorem after_barred {s : Session} (hs : s.state = .speaking) (heard : Bool)
    (inputs : List Input) :
    p.after (s.commanded heard) inputs = s.commanded (heard || inputs.any p.obeysInput) := by
  induction inputs generalizing heard with
  | nil => rw [after, List.any_nil, Bool.or_false]
  | cons input inputs ih => rw [after, p.meet_barred ha hs heard input, ih, List.any_cons,
      Bool.or_assoc]

end

end Policy

namespace Pipeline

theorem Handler.hear_barred (h : Handler) (ha : h.policy.config.allowInterruptions = false)
    (w : Suppressor) (f : Fragment) {s : Session} (hs : s.state = .speaking) (heard : Bool)
    (ho : h.session = some (s.commanded heard)) :
    h.hear w f = (if !heard && (h.classify f).isStop then .interrupt .stopCommand else .ignore,
      { h with session := some (s.commanded (heard || (h.classify f).isStop)) },
      if !heard && (h.classify f).isStop then w.arm f.receivedAt else w) := by
  simp only [hear, ho, h.policy.decide_barred ha f hs heard]
  rfl

namespace Listener

def command (l : Listener) : Call → Option Fragment
  | .process (.transcript f) => if (l.handler.classify f).isStop then some f else none
  | _ => none

def commanded (l : Listener) : List Call → Bool
  | [] => false
  | c :: cs => (l.command c).isSome || (l.call c).2.commanded cs

def obedience (l : Listener) (c : Call) : List Frame :=
  (l.command c).toList.map fun f => .interrupt .stopCommand (some f.text)

theorem turn_silent {timeout : Nat} {cause : Call} {next : Option SpeechState} {out : List Frame}
    (ht : Turn timeout cause none out next) : out = [] ∧ next = none := by
  cases ht
  exact ⟨rfl, rfl⟩

theorem call_silent_barred (l : Listener) (hn : l.handler.session = none) {c : Call}
    (hb : c.isBoundary = false) :
    c.generated (l.call c).1 = [] ∧ (l.call c).2.handler.session = none := by
  have hstate : l.handler.state = none := congrArg (Option.map _) hn
  have hturn := l.call_turn c hb
  rw [hstate] at hturn
  obtain ⟨hout, hnext⟩ := turn_silent hturn
  exact ⟨hout, Option.map_eq_none_iff.mp hnext⟩

theorem call_transcript_barred (l : Listener) (ha : l.config.allowInterruptions = false)
    (f : Fragment) {s : Session} (hs : s.state = .speaking) (heard : Bool)
    (ho : l.handler.session = some (s.commanded heard)) :
    let c : Call := .process (.transcript f)
    c.generated (l.call c).1 = (if heard then [] else l.obedience c) ∧
      (l.call c).2.handler.session = some (s.commanded (heard || (l.command c).isSome)) := by
  intro c
  have hhear := l.handler.hear_barred ha l.suppressor f hs heard ho
  have hcall : l.call c = (((l.handler.hear l.suppressor f).1.frame (some f.text)).toList ++
      c.passedOn, ⟨(l.handler.hear l.suppressor f).2.1, (l.handler.hear l.suppressor f).2.2,
        { l.conversation with language := f.language.or l.conversation.language }⟩) := rfl
  rw [hcall, Call.generated_append, hhear]
  cases hstop : (l.handler.classify f).isStop <;> cases heard <;>
    simp [c, obedience, command, hstop, Decision.frame]

/-- A call within an utterance is told of only if it brings the first stop command. -/
theorem call_barred (l : Listener) (ha : l.config.allowInterruptions = false) {s : Session}
    (hs : s.state = .speaking) (heard : Bool) (ho : l.handler.session = some (s.commanded heard))
    {c : Call} (hb : c.isBoundary = false) :
    c.generated (l.call c).1 = (if heard then [] else l.obedience c) ∧
      (l.call c).2.handler.session = some (s.commanded (heard || (l.command c).isSome)) := by
  have hquiet : ([] : List Frame) = if heard then [] else [] := by cases heard <;> rfl
  have hkept : some (s.commanded heard) = some (s.commanded (heard || false)) := by
    rw [Bool.or_false]
  cases c with
  | start | stop => exact absurd hb.symm Bool.false_ne_true
  | expire now =>
    rw [Call.generated_expire]
    have hpoll := Policy.poll_commanded hs heard now
    simp [call, Handler.expire, ho, hpoll, obedience, command]
  | process f =>
    cases f with
    | transcript f => exact l.call_transcript_barred ha f hs heard ho
    | utteranceStarted | utteranceEnded | endOfStream => exact absurd hb.symm Bool.false_ne_true
    | control control =>
      cases control with
      | reset => exact absurd hb.symm Bool.false_ne_true
      | addIgnoredWords words =>
        exact ⟨hquiet, ho.trans hkept⟩
    | _ => exact ⟨hquiet, ho.trans hkept⟩

theorem after_barred (l : Listener) (ha : l.config.allowInterruptions = false) {s : Session}
    (hs : s.state = .speaking) (heard : Bool) (ho : l.handler.session = some (s.commanded heard))
    (calls : List Call) (hb : ∀ c ∈ calls, c.isBoundary = false) :
    (l.after calls).handler.session = some (s.commanded (heard || l.commanded calls)) := by
  induction calls generalizing l heard with
  | nil => rw [commanded, Bool.or_false]; exact ho
  | cons c cs ih =>
    have hnext := (l.call_barred ha hs heard ho (hb c List.mem_cons_self)).2
    have ha' : (l.call c).2.config.allowInterruptions = false := by
      rw [(l.call_continues c).config]
      exact ha
    rw [commanded, ← Bool.or_assoc]
    exact ih (l.call c).2 ha' _ hnext fun d hd => hb d (List.mem_cons_of_mem c hd)

/-- An utterance under way is as it began, or a stop command has interrupted it. -/
def Curbed (l : Listener) : Prop :=
  ∀ s, l.handler.session = some s → ∃ start heard, s = (Session.start start).commanded heard

theorem call_curbed (l : Listener) (ha : l.config.allowInterruptions = false) (h : l.Curbed)
    (c : Call) : (l.call c).2.Curbed := by
  cases hb : c.isBoundary with
  | true =>
    intro s hs
    rcases (l.call_boundary c hb).2 with ⟨hnone, _⟩ | ⟨_, start, rfl⟩
    · rw [Handler.state, hs] at hnone
      cases hnone
    · exact ⟨start, false, (Option.some.inj hs).symm⟩
  | false =>
    cases ho : l.handler.session with
    | none =>
      intro s hs
      rw [(l.call_silent_barred ho hb).2] at hs
      cases hs
    | some session =>
      obtain ⟨start, heard, rfl⟩ := h session ho
      intro s hs
      rw [(l.call_barred ha rfl heard ho hb).2] at hs
      exact ⟨start, _, (Option.some.inj hs).symm⟩

theorem after_curbed (l : Listener) (ha : l.config.allowInterruptions = false) (h : l.Curbed)
    (calls : List Call) : (l.after calls).Curbed := by
  induction calls generalizing l with
  | nil => exact h
  | cons c cs ih =>
    apply ih
    · rw [(l.call_continues c).config]
      exact ha
    · exact l.call_curbed ha h c

theorem Curbed.deadline {l : Listener} (h : l.Curbed) : l.handler.deadline = none := by
  cases ho : l.handler.session with
  | none => rw [Handler.deadline, ho]; rfl
  | some session =>
    obtain ⟨start, heard, rfl⟩ := h session ho
    rw [Handler.deadline, ho]
    exact Session.commanded_deadline rfl heard

theorem obedience_boundary (l : Listener) {c : Call} (hb : c.isBoundary = true) :
    l.obedience c = [] := by
  cases c with
  | process f =>
    cases f with
    | transcript f => exact absurd hb Bool.false_ne_true
    | _ => rfl
  | _ => rfl

theorem Curbed.generated {l : Listener} (ha : l.config.allowInterruptions = false) (h : l.Curbed)
    (c : Call) : c.generated (l.call c).1 =
      if l.handler.state = some .speaking then l.obedience c else [] := by
  cases hb : c.isBoundary with
  | true =>
    rw [(l.call_boundary c hb).1, l.obedience_boundary hb, ite_self]
  | false =>
    cases ho : l.handler.session with
    | none =>
      rw [(l.call_silent_barred ho hb).1, Handler.state, ho]
      rfl
    | some session =>
      obtain ⟨start, heard, rfl⟩ := h session ho
      rw [(l.call_barred ha rfl heard ho hb).1, Handler.state, ho]
      cases heard <;> simp [Session.commanded, Session.start, Session.interrupt]

/-- Under settings that bar interruptions a session and the utterance under way of a handler are
spoken until the first stop command, which interrupts them as it would without the bar; no other
fragment, no look at the clock and no other call makes a difference, and no deadline ever stands. -/
theorem stop_commands_alone (p : Policy) (ha : p.config.allowInterruptions = false)
    (suppressor : Suppressor) (conversation : Conversation) :
    (∀ (start : Instant) (inputs : List Policy.Input),
      let s := p.after (.start start) inputs
      let heard := inputs.any p.obeysInput
      s = (Session.start start).commanded heard ∧
      (∀ f, (p.decide f s).1.decision =
        if !heard && p.obeys f then .interrupt .stopCommand else .ignore) ∧
      ∀ now, Policy.poll s now = (none, s)) ∧
    (∀ (f : Fragment) (s : Session), s.state = .speaking → p.obeys f = true →
      p.decide f s = p.permissive.decide f s ∧
      p.decide f s = (⟨.interrupt .stopCommand, true, p.classifier.classify f.text⟩,
        s.interrupt .stopCommand)) ∧
    (∀ calls : List Call,
      let l := Listener.after ⟨⟨p, none⟩, suppressor, conversation⟩ calls
      l.handler.deadline = none ∧
      ∀ c, c.generated (l.call c).1 =
        if l.handler.state = some .speaking then l.obedience c else []) ∧
    ∀ (before between : List Call) (start : Instant),
      (∀ c ∈ between, c.isBoundary = false) →
      let opened := Listener.after ⟨⟨p, none⟩, suppressor, conversation⟩
        (before ++ [.process (.utteranceStarted start)])
      (opened.after between).handler.session =
        some ((Session.start start).commanded (opened.commanded between)) := by
  let l : Listener := ⟨⟨p, none⟩, suppressor, conversation⟩
  have hbar : ∀ calls, (l.after calls).config.allowInterruptions = false := fun calls =>
    (congrArg Policy.Config.allowInterruptions (l.after_continues calls).config).trans ha
  refine ⟨?_, ?_, ?_, ?_⟩
  · intro start inputs s heard
    have hs : s = (Session.start start).commanded heard := p.after_barred ha rfl false inputs
    refine ⟨hs, fun f => ?_, fun now => ?_⟩
    · rw [hs, p.decide_barred ha f rfl heard]
    · rw [hs]
      exact Policy.poll_commanded rfl heard now
  · intro f s hs hf
    have hcommand := p.decide_command f hs hf
    exact ⟨hcommand.trans (p.permissive.decide_command f hs hf).symm, hcommand⟩
  · intro calls
    have hcurbed := l.after_curbed ha (by simp [Curbed, l]) calls
    exact ⟨hcurbed.deadline, hcurbed.generated (hbar calls)⟩
  · intro before between start hb opened
    have hopened : opened.handler.session = some ((Session.start start).commanded false) := by
      simp only [opened, after_append]
      rfl
    exact opened.after_barred (hbar _) rfl false hopened between hb

/-- Speech that would interrupt and a look at the clock long after do nothing; the stop phrase
interrupts although it has been sent in as a filler. -/
theorem stop_commands_alone_unlearned :
    let p : Policy := ⟨{ allowInterruptions := false },
      ⟨⟨[("um", none)], ["hold on"], 1, 2⟩, true⟩, by decide +kernel⟩
    let between : List Call :=
      [.process (.transcript
          { text := "Tell me more", receivedAt := ⟨0⟩, duration := some 2000000000 }),
        .expire ⟨9000000000⟩, .process (.control (.addIgnoredWords ["Hold on."])),
        .process (.transcript { text := "Please, HOLD on!", receivedAt := ⟨1⟩ })]
    let opened := Listener.after ⟨⟨p, none⟩, .ofConfig {}, {}⟩
      ([.start] ++ [.process (.utteranceStarted ⟨0⟩)])
    p.config.allowInterruptions = false ∧ (∀ c ∈ between, c.isBoundary = false) ∧
      (opened.after (between.take 3)).handler.session = some ⟨.speaking, ⟨0⟩, 0⟩ ∧
      (opened.after between).handler.session = some ⟨.interrupted .stopCommand, ⟨0⟩, 0⟩ := by
  intro p between opened
  have hb : ∀ c ∈ between, c.isBoundary = false := by decide
  have hsession : ∀ calls : List Call, (∀ c ∈ calls, c.isBoundary = false) →
      (opened.after calls).handler.session =
        some ((Session.start ⟨0⟩).commanded (opened.commanded calls)) := by
    intro calls hcalls
    obtain ⟨_, _, _, hopened⟩ := stop_commands_alone p rfl (.ofConfig {}) {}
    exact hopened [.start] calls ⟨0⟩ hcalls
  have hquiet : opened.commanded (between.take 3) = false := by decide +kernel
  have hheard : opened.commanded between = true := by decide +kernel
  have htaken := hsession (between.take 3) fun c hc => hb c (List.mem_of_mem_take hc)
  have hall := hsession between hb
  rw [hquiet] at htaken
  rw [hheard] at hall
  exact ⟨rfl, hb, htaken, hall⟩

end Listener

end Pipeline

end BargeIn
