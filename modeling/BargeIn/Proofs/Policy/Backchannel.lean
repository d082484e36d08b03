import Mathlib.Algebra.Ring.Parity
import BargeIn.Proofs.Policy.Timeouts

/-!
# Speech that only accompanies the agent's

A filler makes a session wait, and a filler within that wait takes the interruption back. So a
listener who says nothing else, however often and for however long, does not stop the agent: each
pair of fillers leaves the session as it was, but for the count of false alarms.
-/

set_option autoImplicit false

namespace BargeIn.Policy

def fragmentCount : List Input → Nat
  | [] => 0
  | .fragment _ :: later => fragmentCount later + 1
  | .poll _ :: later => fragmentCount later

/-- Fillers that keep coming. One that finds no deadline outstanding sets one, which has to be
representable, and the next one comes before it. Looks at the clock come before it as well, and at
any time while there is none. -/
inductive Backchannel (p : Policy) : Option Instant → List Input → Prop
  | done (due : Option Instant) : Backchannel p due []
  | poll {due : Option Instant} {now : Instant} {later : List Input}
      (hnow : ∀ deadline, due = some deadline → now < deadline) (h : Backchannel p due later) :
      Backchannel p due (.poll now :: later)
  | begins {f : Fragment} {deadline : Instant} {later : List Input}
      (hf : p.classifier.classify f.text = .onlyFiller)
      (hd : f.receivedAt.add? p.config.resumeTimeout = some deadline)
      (h : Backchannel p (some deadline) later) : Backchannel p none (.fragment f :: later)
  | returns {f : Fragment} {deadline : Instant} {later : List Input}
      (hf : p.classifier.classify f.text = .onlyFiller) (hd : f.receivedAt < deadline)
      (h : Backchannel p none later) : Backchannel p (some deadline) (.fragment f :: later)

theorem decide_first_filler {p : Policy} {f : Fragment} {s : Session} {deadline : Instant}
    (ha : p.config.allowInterruptions = true)
    (hf : p.classifier.classify f.text = .onlyFiller) (hs : s.state = .speaking)
    (hd : f.receivedAt.add? p.config.resumeTimeout = some deadline) :
    (p.decide f s).1.decision = .wait deadline ∧
      (p.decide f s).2 = s.await f.receivedAt deadline := by
  apply decide_of_transition
  simp [Config.transition, hs, hf, ha, hd, Classification.isStop, Classification.isOnlyFiller]

theorem decide_second_filler {p : Policy} {f : Fragment} {s : Session}
    {since deadline : Instant} (ha : p.config.allowInterruptions = true)
    (hf : p.classifier.classify f.text = .onlyFiller) (hs : s.state = .pending since deadline)
    (hd : f.receivedAt < deadline) :
    (p.decide f s).1.decision = .resume ∧ (p.decide f s).2 = s.resume := by
  have hlate : ¬ deadline ≤ f.receivedAt := Int.not_le.mpr hd
  apply decide_of_transition
  simp [Config.transition, hs, hf, ha, hlate, Classification.isStop, Classification.isOnlyFiller]

/-- The session has heard so many fillers and nothing else; the deadline set by the last of them
is outstanding if their number is odd. -/
structure Accompanied (s : Session) (count : Nat) (due : Option Instant) : Prop where
  uninterrupted : s.isInterrupted = false
  deadline : s.deadline = due
  falseInterruptions : s.falseInterruptions = count / 2
  parity : due = none ↔ Even count

namespace Accompanied

variable {p : Policy} {s : Session} {count : Nat} {due : Option Instant} {deadline : Instant}

theorem started (start : Instant) : Accompanied (.start start) 0 none :=
  ⟨rfl, rfl, rfl, by simp⟩

theorem speaking_iff (h : Accompanied s count due) : s.state = .speaking ↔ Even count := by
  have hrunning := h.uninterrupted
  have hdue := h.deadline
  rw [← h.parity, ← hdue]
  obtain ⟨state, startedAt, falseAlarms⟩ := s
  cases state with
  | speaking => exact ⟨fun _ => rfl, fun _ => rfl⟩
  | pending since deadline => exact ⟨nofun, nofun⟩
  | interrupted reason => cases hrunning

theorem speaking (h : Accompanied s count none) : s.state = .speaking :=
  h.speaking_iff.mpr (h.parity.mp rfl)

theorem pending (h : Accompanied s count (some deadline)) :
    ∃ since, s.state = .pending since deadline := by
  have hdue := h.deadline
  obtain ⟨state, startedAt, falseAlarms⟩ := s
  cases state with
  | speaking => cases hdue
  | pending since other =>
    obtain rfl := Option.some.inj hdue
    exact ⟨since, rfl⟩
  | interrupted reason => cases hdue

/-! What each input of a backchannel finds, and what it leaves. -/

theorem polled (h : Accompanied s count due) {now : Instant}
    (hnow : ∀ deadline, due = some deadline → now < deadline) : poll s now = (none, s) := by
  rcases poll_cases s now with ⟨hp, -⟩ | ⟨since, deadline, hs, hdue, -⟩
  · exact hp
  · have hdeadline : s.deadline = some deadline := by
      rw [Session.deadline, hs]
      rfl
    exact absurd (hnow deadline (h.deadline ▸ hdeadline)) (Int.not_lt.mpr hdue)

theorem begun (ha : p.config.allowInterruptions = true) (h : Accompanied s count none)
    {f : Fragment} (hf : p.classifier.classify f.text = .onlyFiller)
    (hd : f.receivedAt.add? p.config.resumeTimeout = some deadline) :
    Accompanied (p.decide f s).2 (count + 1) (some deadline) := by
  have heven : Even count := h.parity.mp rfl
  rw [(decide_first_filler ha hf h.speaking hd).2]
  refine ⟨rfl, rfl, ?_, ?_⟩
  · change s.falseInterruptions = (count + 1) / 2
    rw [h.falseInterruptions]
    have hmod := Nat.even_iff.mp heven
    omega
  · rw [Nat.even_add_one]
    exact ⟨nofun, fun hodd => absurd heven hodd⟩

theorem returned (ha : p.config.allowInterruptions = true)
    (h : Accompanied s count (some deadline)) {f : Fragment}
    (hf : p.classifier.classify f.text = .onlyFiller) (hd : f.receivedAt < deadline) :
    Accompanied (p.decide f s).2 (count + 1) none := by
  have hodd : ¬ Even count := fun heven => by cases h.parity.mpr heven
  obtain ⟨since, hs⟩ := h.pending
  rw [(decide_second_filler ha hf hs hd).2]
  refine ⟨rfl, rfl, ?_, ?_⟩
  · change s.falseInterruptions + 1 = (count + 1) / 2
    rw [h.falseInterruptions]
    have hmod := Nat.not_even_iff.mp hodd
    omega
  · rw [Nat.even_add_one]
    exact ⟨fun _ => hodd, fun _ => rfl⟩

theorem reaches (ha : p.config.allowInterruptions = true) (h : Accompanied s count due)
    {before later : List Input} (hb : Backchannel p due (before ++ later)) :
    ∃ due', Backchannel p due' later ∧
      Accompanied (p.after s before) (count + fragmentCount before) due' := by
  -- What carries over is whether a deadline is outstanding, which decides what may come next.
  induction before generalizing s count due with
  | nil => exact ⟨due, hb, h⟩
  | cons input before ih =>
    rw [List.cons_append] at hb
    cases hb with
    | poll hnow hrest =>
      have hsame : (p.meet s (.poll _)).2 = s := congrArg Prod.snd (h.polled hnow)
      rw [after, hsame, fragmentCount]
      exact ih h hrest
    | begins hf hd hrest =>
      rw [after, fragmentCount, Nat.add_comm _ 1, ← Nat.add_assoc]
      exact ih (h.begun ha hf hd) hrest
    | returns hf hd hrest =>
      rw [after, fragmentCount, Nat.add_comm _ 1, ← Nat.add_assoc]
      exact ih (h.returned ha hf hd) hrest

end Accompanied

/-- A backchannel never stops the agent. Of its fillers every other one, from the first on, begins
a wait of the whole timeout, and each of the others takes the interruption back, however long they
last and however many words they have. No look at the clock finds a deadline passed. The false
alarms are half as many as the fillers, so 32 bits are enough to count them as long as they are
enough to count the fillers. -/
theorem backchannel_resumes (p : Policy) (ha : p.config.allowInterruptions = true)
    (start : Instant) {inputs : List Input} (h : Backchannel p none inputs) :
    (∀ before f later, inputs = before ++ .fragment f :: later →
      let decision := (p.decide f (p.after (.start start) before)).1.decision
      (Even (fragmentCount before) → ∃ deadline,
        f.receivedAt.add? p.config.resumeTimeout = some deadline ∧ decision = .wait deadline) ∧
      (Odd (fragmentCount before) → decision = .resume)) ∧
    (∀ before now later, inputs = before ++ .poll now :: later →
      (poll (p.after (.start start) before) now).1 = none) ∧
    ∀ before, before <+: inputs →
      let s := p.after (.start start) before
      s.isInterrupted = false ∧ s.falseInterruptions = fragmentCount before / 2 ∧
        (s.state = .speaking ↔ Even (fragmentCount before)) := by
  have hreach : ∀ before later, inputs = before ++ later → ∃ due, Backchannel p due later ∧
      Accompanied (p.after (.start start) before) (fragmentCount before) due := by
    rintro before later rfl
    simpa using (Accompanied.started start).reaches ha h
  refine ⟨?_, ?_, ?_⟩
  · intro before f later hsplit decision
    obtain ⟨due, hb, hs⟩ := hreach before _ hsplit
    cases hb with
    | begins hf hd hlater =>
      refine ⟨fun _ => ⟨_, hd, (decide_first_filler ha hf hs.speaking hd).1⟩, ?_⟩
      intro hodd
      exact absurd (hs.parity.mp rfl) (Nat.not_even_iff_odd.mpr hodd)
    | returns hf hd hlater =>
      obtain ⟨since, hstate⟩ := hs.pending
      refine ⟨?_, fun _ => (decide_second_filler ha hf hstate hd).1⟩
      intro heven
      cases hs.parity.mpr heven
  · intro before now later hsplit
    obtain ⟨due, hb, hs⟩ := hreach before _ hsplit
    cases hb with
    | poll hnow hlater => exact congrArg Prod.fst (hs.polled hnow)
  · rintro before ⟨later, hsplit⟩ s
    obtain ⟨due, -, hs⟩ := hreach before later hsplit.symm
    exact ⟨hs.uninterrupted, hs.falseInterruptions, hs.speaking_iff⟩

/-- Three fillers, the first of them long and of many words, with looks at the clock up to the last
nanosecond of the wait. -/
theorem backchannel_resumes_thrice :
    let p : Policy := ⟨{ falseInterruptionTimeout := .ofNat 1 },
      ⟨⟨[("um", none), ("you know", none)], ["stop"], 2, 1⟩, true⟩, by decide +kernel⟩
    let long : Fragment := { text := "Um, you know, um!", receivedAt := ⟨5⟩,
                             duration := some 90000000000, wordCount := some 40 }
    let answer : Fragment := { text := "um", receivedAt := ⟨1000000004⟩ }
    let before : List Input := [.poll ⟨7⟩, .fragment long, .poll ⟨1000000004⟩]
    let inputs : List Input := before ++ [.fragment answer, .poll ⟨1000000009⟩, .fragment long]
    (p.decide answer (p.after (.start ⟨0⟩) before)).1.decision = .resume ∧
      (p.after (.start ⟨0⟩) inputs).isInterrupted = false ∧
      (p.after (.start ⟨0⟩) inputs).falseInterruptions = 1 ∧
      (p.after (.start ⟨0⟩) inputs).state = .pending ⟨5⟩ ⟨1000000005⟩ := by
  intro p long answer before inputs
  have hlong : p.classifier.classify long.text = .onlyFiller := by decide +kernel
  have hanswer : p.classifier.classify answer.text = .onlyFiller := by decide +kernel
  have hdue : long.receivedAt.add? p.config.resumeTimeout = some ⟨1000000005⟩ := by
    decide +kernel
  have hin : Backchannel p none inputs := by
    apply Backchannel.poll (by simp)
    apply Backchannel.begins hlong hdue
    apply Backchannel.poll (by rintro _ ⟨⟩; decide)
    apply Backchannel.returns hanswer (by decide)
    apply Backchannel.poll (by simp)
    exact Backchannel.begins hlong hdue (.done _)
  obtain ⟨hdecisions, -, hsessions⟩ := backchannel_resumes p rfl ⟨0⟩ hin
  obtain ⟨hrunning, hcount, -⟩ := hsessions inputs (List.prefix_refl inputs)
  exact ⟨(hdecisions before answer _ rfl).2 (by decide), hrunning, hcount.trans (by decide),
    by decide +kernel⟩

end BargeIn.Policy
