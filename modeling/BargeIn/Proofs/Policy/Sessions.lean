import Mathlib.Control.Monad.Basic
import BargeIn.Proofs.Policy.Transition

/-!
# Sessions under a policy

A session meets fragments of speech and looks at the clock, in any order and at any time. A
session that has been interrupted stays so. Two policies that differ only in how much speech they
ask for treat a session alike until the less demanding one interrupts it.
-/

set_option autoImplicit false

namespace BargeIn.Policy

inductive Input
  | fragment (f : Fragment)
  | poll (now : Instant)
deriving Repr, DecidableEq

def meet (p : Policy) (s : Session) : Input → Option Decision × Session
  | .fragment f => (some (p.decide f s).1.decision, (p.decide f s).2)
  | .poll now => poll s now

def after (p : Policy) (s : Session) : List Input → Session
  | [] => s
  | input :: inputs => p.after (p.meet s input).2 inputs

theorem poll_interrupted (s : Session) (now : Instant) (hi : s.isInterrupted = true) :
    poll s now = (none, s) := by
  obtain ⟨reason, hstate⟩ := Session.state_interrupted hi
  simp only [poll, hstate]

theorem meet_interrupted (p : Policy) (s : Session) (input : Input) (hi : s.isInterrupted = true) :
    (p.meet s input).2 = s := by
  cases input with
  | fragment f =>
    have ht := transition_interrupted p.config f (p.classifier.classify f.text) s hi
    exact congrArg Prod.snd ht
  | poll now => exact congrArg Prod.snd (poll_interrupted s now hi)

theorem after_interrupted (p : Policy) (s : Session) (inputs : List Input)
    (hi : s.isInterrupted = true) : p.after s inputs = s := by
  induction inputs with
  | nil => rfl
  | cons input inputs ih =>
    rw [after, meet_interrupted p s input hi]
    exact ih

/-! ## Thresholds -/

namespace Config

/-- The settings ask for no more speech than others that are the same in all else that a session
depends on. -/
structure Laxer (lax strict : Config) : Prop where
  allow : lax.allowInterruptions = strict.allowInterruptions
  timeout : lax.falseInterruptionTimeout = strict.falseInterruptionTimeout
  duration : lax.minDuration ≤ strict.minDuration
  words : lax.minInterruptionWords ≤ strict.minInterruptionWords

namespace Laxer

variable {lax strict : Config}

theorem meetsMinimums (h : Laxer lax strict) (f : Fragment) (residual : List String)
    (hm : strict.meetsMinimums f residual = true) : lax.meetsMinimums f residual = true := by
  have hd := h.duration
  have hw := h.words
  simp only [Config.meetsMinimums, Bool.and_eq_true, decide_eq_true_eq] at hm ⊢
  constructor
  · exact Nat.le_trans hd hm.1
  · exact Nat.le_trans hw hm.2

theorem resumeTimeout (h : Laxer lax strict) : lax.resumeTimeout = strict.resumeTimeout := by
  rw [Config.resumeTimeout, Config.resumeTimeout, h.timeout]

/-- A fragment makes the same of a session under both settings, or interrupts it under the less
demanding ones. -/
theorem transition (h : Laxer lax strict) (f : Fragment) (heard : Classification) (s : Session) :
    lax.transition f heard s = strict.transition f heard s ∨
      (lax.transition f heard s).2.isInterrupted = true := by
  obtain ⟨state, startedAt, count⟩ := s
  cases state with
  | interrupted reason => exact Or.inl rfl
  | pending since deadline =>
    apply Or.inl
    simp only [Config.transition, h.allow]
  | speaking =>
    by_cases hl : (!heard.isOnlyFiller && lax.meetsMinimums f heard.residual) = true
    · by_cases hs : heard.isStop = true
      · apply Or.inl
        simp only [Config.transition, hs, if_true]
      by_cases ha : strict.allowInterruptions = true
      · apply Or.inr
        simp [Config.transition, hs, h.allow, ha, hl, Session.isInterrupted, Session.interrupt,
          SpeechState.isInterrupted]
      · apply Or.inl
        simp [Config.transition, hs, h.allow, ha]
    · -- what does not suffice under the lax settings does not suffice under the strict ones
      have hstrict : (!heard.isOnlyFiller && strict.meetsMinimums f heard.residual) = false := by
        apply Bool.eq_false_iff.mpr
        intro hboth
        obtain ⟨hf, hm⟩ := Bool.and_eq_true_iff.mp hboth
        exact hl (Bool.and_eq_true_iff.mpr ⟨hf, h.meetsMinimums f heard.residual hm⟩)
      apply Or.inl
      simp only [Config.transition, h.allow, h.resumeTimeout, hstrict, Bool.not_eq_true] at hl ⊢
      simp only [hl]

end Laxer

end Config

theorem meet_laxer {lax strict : Policy} (hclassifier : lax.classifier = strict.classifier)
    (h : Config.Laxer lax.config strict.config) (s : Session) (input : Input) :
    (lax.meet s input).2 = (strict.meet s input).2 ∨
      (lax.meet s input).2.isInterrupted = true := by
  cases input with
  | poll now => exact Or.inl rfl
  | fragment f =>
    have ht := h.transition f (strict.classifier.classify f.text) s
    simp only [meet, decide, hclassifier]
    exact ht.imp_left (congrArg Prod.snd)

/-- Under settings that ask for less speech, a session stays the same as under the others until it
is interrupted, and it is interrupted no later than under them. -/
theorem thresholds_loosened (lax strict : Policy) (hclassifier : lax.classifier = strict.classifier)
    (h : Config.Laxer lax.config strict.config) (s : Session) (inputs : List Input) :
    (lax.after s inputs = strict.after s inputs ∨ (lax.after s inputs).isInterrupted = true) ∧
      ((strict.after s inputs).isInterrupted = true →
        (lax.after s inputs).isInterrupted = true) := by
  have halike : lax.after s inputs = strict.after s inputs ∨
      (lax.after s inputs).isInterrupted = true := by
    induction inputs generalizing s with
    | nil => exact Or.inl rfl
    | cons input inputs ih =>
      rcases meet_laxer hclassifier h s input with heq | hi
      · rw [after, after, heq]
        exact ih _
      · rw [after, after_interrupted lax _ inputs hi]
        exact Or.inr hi
  refine ⟨halike, ?_⟩
  intro hi
  rcases halike with heq | hlax
  · rw [heq]
    exact hi
  · exact hlax

/-- Two words suffice for one policy and not for the other, which waits and then times out. -/
theorem thresholds_loosened_two_words :
    let classifier : Classifier := .umAndStop
    let lax : Policy :=
      ⟨{ minInterruptionWords := 2, falseInterruptionTimeout := .ofNat 1 }, classifier,
        by decide +kernel⟩
    let strict : Policy :=
      ⟨{ minInterruptionWords := 3, falseInterruptionTimeout := .ofNat 1 }, classifier,
        by decide +kernel⟩
    let speech : Fragment :=
      { text := "wait, um, please", receivedAt := ⟨0⟩, duration := some 600000000 }
    let inputs : List Input := [.fragment { text := "um", receivedAt := ⟨0⟩ },
      .fragment { text := "um", receivedAt := ⟨1⟩ }, .fragment speech,
      .poll ⟨1000000000⟩]
    Config.Laxer lax.config strict.config ∧
      (strict.after (.start ⟨0⟩) (inputs.take 3)).isInterrupted = false ∧
      strict.after (.start ⟨0⟩) inputs = ⟨.interrupted .timeout, ⟨0⟩, 1⟩ ∧
      lax.after (.start ⟨0⟩) inputs = ⟨.interrupted .meaningfulSpeech, ⟨0⟩, 1⟩ ∧
      (lax.after (.start ⟨0⟩) inputs).isInterrupted = true := by
  intro classifier lax strict speech inputs
  have hlaxer : Config.Laxer lax.config strict.config := ⟨rfl, rfl, by decide +kernel, by decide⟩
  have hstrict : strict.after (.start ⟨0⟩) inputs = ⟨.interrupted .timeout, ⟨0⟩, 1⟩ := by
    decide +kernel
  have hsooner := (thresholds_loosened lax strict rfl hlaxer (.start ⟨0⟩) inputs).2
  refine ⟨hlaxer, by decide +kernel, hstrict, by decide +kernel, hsooner ?_⟩
  rw [hstrict]
  rfl

end BargeIn.Policy
