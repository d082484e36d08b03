import Mathlib.Data.List.Induction
import BargeIn.Proofs.Policy.Durations
import BargeIn.Proofs.Policy.Sessions

/-!
# Waiting for a confirmation

A session that waits has done so since some fragment, and nothing it met after that fragment has
changed it. It waits for as long as the timeout lasts, which is no time at all if the timeout is
too short to be seen after rounding.
-/

set_option autoImplicit false

namespace BargeIn.Policy

/-- A fragment, which may have been taken for anything, or a look at the clock. -/
inductive Encounter
  | fragment (f : Fragment) (heard : Classification)
  | poll (now : Instant)
deriving Repr, DecidableEq

def encountered (p : Policy) : Input → Encounter
  | .fragment f => .fragment f (p.classifier.classify f.text)
  | .poll now => .poll now

namespace Config

def encounter (c : Config) (s : Session) : Encounter → Session
  | .fragment f heard => (c.transition f heard s).2
  | .poll now => (poll s now).2

def through (c : Config) (s : Session) (history : List Encounter) : Session :=
  history.foldl c.encounter s

theorem through_snoc (c : Config) (s : Session) (history : List Encounter) (e : Encounter) :
    c.through s (history ++ [e]) = c.encounter (c.through s history) e := by
  simp [through]

theorem after_eq_through (p : Policy) (s : Session) (inputs : List Input) :
    p.after s inputs = p.config.through s (inputs.map p.encountered) := by
  induction inputs generalizing s with
  | nil => rfl
  | cons input inputs ih =>
    have hmeet : (p.meet s input).2 = p.config.encounter s (p.encountered input) := by
      cases input <;> rfl
    rw [after, ih, hmeet]
    rfl

structure StartsWait (c : Config) (f : Fragment) (heard : Classification) (s : Session)
    (deadline : Instant) : Prop where
  speaking : s.state = .speaking
  decision : (c.transition f heard s).1 = .wait deadline
  allowed : c.allowInterruptions = true
  due : f.receivedAt.add? c.resumeTimeout = some deadline

/-- A session that waits after an encounter did so before and is the same, or has been made to
wait by a fragment. -/
theorem encounter_pending {c : Config} {s : Session} {e : Encounter} {since deadline : Instant}
    (h : (c.encounter s e).state = .pending since deadline) :
    c.encounter s e = s ∨ ∃ f heard, e = .fragment f heard ∧ f.receivedAt = since ∧
      c.StartsWait f heard s deadline := by
  cases e with
  | poll now =>
    rcases poll_cases s now with ⟨hp, -⟩ | ⟨_, _, -, -, hp⟩
    · exact .inl (congrArg Prod.snd hp)
    · rw [encounter, hp] at h
      exact absurd h (by simp [Session.interrupt])
  | fragment f heard =>
    have hm := transition_move c f heard s
    rw [encounter] at h ⊢
    rw [h] at hm
    generalize hstate : s.state = before at hm
    generalize hdecision : (c.transition f heard s).1 = decision at hm
    -- Only two of the moves leave a session that waits.
    cases hm with
    | barred hi hs ha => exact .inl (congrArg Prod.snd (transition_barred c f heard s hs ha))
    | wait hs ha hm hd => exact .inr ⟨f, heard, rfl, rfl, hstate, hdecision, ha, hd⟩

/-- The session has waited since this fragment, and nothing has changed it from then on. -/
def HasWaited (c : Config) (s : Session) (history : List Encounter) (f : Fragment)
    (deadline : Instant) : Prop :=
  ∃ before heard later, history = before ++ .fragment f heard :: later ∧
    c.StartsWait f heard (c.through s before) deadline ∧
    ∀ part, part <+: later →
      c.through s (before ++ .fragment f heard :: part) = c.through s history

theorem hasWaited_unchanged {c : Config} {s : Session} {history : List Encounter} {f : Fragment}
    {deadline : Instant} (h : c.HasWaited s history f deadline) {e : Encounter}
    (he : c.encounter (c.through s history) e = c.through s history) :
    c.HasWaited s (history ++ [e]) f deadline := by
  obtain ⟨before, heard, later, rfl, hstart, hsame⟩ := h
  refine ⟨before, heard, later ++ [e], by simp, hstart, ?_⟩
  intro part hpart
  rcases List.prefix_concat_iff.mp hpart with rfl | hearlier
  · simp
  · rw [through_snoc, he]
    exact hsame part hearlier

theorem hasWaited_started {c : Config} {s : Session} {history : List Encounter} {f : Fragment}
    {heard : Classification} {deadline : Instant}
    (h : c.StartsWait f heard (c.through s history) deadline) :
    c.HasWaited s (history ++ [.fragment f heard]) f deadline := by
  refine ⟨history, heard, [], rfl, h, ?_⟩
  intro part hpart
  rw [List.prefix_nil.mp hpart]

theorem through_pending {c : Config} {start : Instant} {history : List Encounter}
    {since deadline : Instant}
    (h : (c.through (.start start) history).state = .pending since deadline) :
    ∃ f, f.receivedAt = since ∧ c.HasWaited (.start start) history f deadline := by
  -- From the end of the history backwards, to where the session last changed.
  induction history using List.reverseRecOn with
  | nil => exact absurd h (by simp [through, Session.start])
  | append_singleton history e ih =>
    rw [through_snoc] at h
    rcases encounter_pending h with hsame | ⟨f, heard, rfl, hsince, hstart⟩
    · rw [hsame] at h
      obtain ⟨f, hsince, hwaited⟩ := ih h
      exact ⟨f, hsince, hasWaited_unchanged hwaited hsame⟩
    · exact ⟨f, hsince, hasWaited_started hstart⟩

theorem HasWaited.due {c : Config} {s : Session} {history : List Encounter} {f : Fragment}
    {deadline : Instant} (h : c.HasWaited s history f deadline) :
    c.allowInterruptions = true ∧ f.receivedAt.add? c.resumeTimeout = some deadline := by
  obtain ⟨_, _, _, -, hstart, -⟩ := h
  exact ⟨hstart.allowed, hstart.due⟩

end Config

theorem decide_same_instant (p : Policy) {f : Fragment} {s : Session} {since deadline : Instant}
    (hs : s.state = .pending since deadline) (ha : p.config.allowInterruptions = true)
    (hf : p.classifier.classify f.text = .onlyFiller) (hsince : f.receivedAt = since) :
    (p.decide f s).1.decision = if since < deadline then .resume else .interrupt .timeout := by
  by_cases hd : since < deadline
  · have hlate : ¬ deadline ≤ since := Int.not_le.mpr hd
    simp [decide, Config.transition, hs, hf, ha, hsince, hlate, hd, Classification.isStop,
      Classification.isOnlyFiller]
  · have hlate : deadline ≤ since := Int.not_lt.mp hd
    simp [decide, Config.transition, hs, hf, ha, hsince, hlate, hd, Classification.isStop]

/-- The deadline of a wait is the timeout later than the fragment that the session has waited
since. It is later at all exactly if the timeout is more than half a nanosecond, and then a filler
at the same instant is in time. -/
theorem confirmation_window (p : Policy) (start : Instant) (history : List Encounter)
    {since deadline : Instant}
    (h : (p.config.through (.start start) history).state = .pending since deadline) :
    (∃ f, f.receivedAt = since ∧ p.config.HasWaited (.start start) history f deadline) ∧
    deadline.nanos = since.nanos + p.config.resumeTimeout ∧
    deadline.nanos ≤ since.nanos + maxSeconds * nanosPerSecond ∧
    (since < deadline ↔ p.config.waits = true) ∧
    ∀ f, f.receivedAt = since → p.classifier.classify f.text = .onlyFiller →
      (p.decide f (p.config.through (.start start) history)).1.decision =
        if p.config.waits then .resume else .interrupt .timeout := by
  obtain ⟨f, rfl, hwaited⟩ := Config.through_pending h
  obtain ⟨ha, hdue⟩ := hwaited.due
  have hdeadline := (Instant.add?_eq_some_iff _ _ _).mp hdue |>.2
  have hbound : p.config.resumeTimeout ≤ maxSeconds * nanosPerSecond := boundedNanos_le _
  have hwindow : f.receivedAt < deadline ↔ p.config.waits = true := by
    rw [← Config.resumeTimeout_pos_iff p.valid]
    change f.receivedAt.nanos < deadline.nanos ↔ _
    omega
  refine ⟨⟨f, rfl, hwaited⟩, hdeadline, by omega, hwindow, ?_⟩
  intro filler hsince hf
  simp only [decide_same_instant p h ha hf hsince, hwindow]

/-- The window is one nanosecond long, and the clock is looked at within it. -/
theorem confirmation_window_nanosecond :
    let p : Policy := ⟨{ falseInterruptionTimeout := .ofRatio 6 10000000000 },
      .umAndStop, by decide +kernel⟩
    let filler : Fragment := { text := "Um", receivedAt := ⟨7⟩ }
    let inputs : List Input := [.fragment filler, .fragment filler,
      .fragment { text := "Well", receivedAt := ⟨7⟩ }, .poll ⟨7⟩]
    p.after (.start ⟨0⟩) inputs = ⟨.pending ⟨7⟩ ⟨8⟩, ⟨0⟩, 1⟩ ∧ p.config.waits = true ∧
      (p.decide filler (p.after (.start ⟨0⟩) inputs)).1.decision = .resume := by
  intro p filler inputs
  have hs : p.after (.start ⟨0⟩) inputs = ⟨.pending ⟨7⟩ ⟨8⟩, ⟨0⟩, 1⟩ := by decide +kernel
  rw [Config.after_eq_through] at hs ⊢
  obtain ⟨-, -, -, hwindow, hresumes⟩ :=
    confirmation_window p ⟨0⟩ _ (congrArg Session.state hs)
  have hwaits : p.config.waits = true := hwindow.mp (by decide)
  refine ⟨hs, hwaits, ?_⟩
  rw [hresumes filler rfl (by decide +kernel), if_pos hwaits]

/-- A tenth of a nanosecond is accepted as a timeout and is rounded to nothing. -/
theorem confirmation_window_closed :
    let p : Policy := ⟨{ falseInterruptionTimeout := .ofRatio 1 10000000000 },
      .umAndStop, by decide +kernel⟩
    let filler : Fragment := { text := "Um", receivedAt := ⟨0⟩ }
    let s := (p.decide filler (.start ⟨0⟩)).2
    p.config.falseInterruptionTimeout.isZero = false ∧ p.config.resumeTimeout = 0 ∧
      p.classifier.classify filler.text = .onlyFiller ∧
      s.state = .pending filler.receivedAt ⟨0⟩ ∧ ¬ filler.receivedAt < ⟨0⟩ ∧
      (p.decide filler s).1.decision = .interrupt .timeout := by
  intro p filler s
  exact ⟨by decide +kernel, by decide +kernel, by decide +kernel, by decide +kernel, by decide,
    by decide +kernel⟩

end BargeIn.Policy
