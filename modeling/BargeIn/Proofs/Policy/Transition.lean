import BargeIn.Policy.Decision

/-!
# What can happen to a session

Every decision about a fragment is one of nine moves, each with the conditions under which it is
made. A look at the clock interrupts a session whose deadline has passed, and leaves any other as
it is. Nothing else is known of a decision further on.
-/

set_option autoImplicit false

namespace BargeIn.Policy

/-- The moves of a session that a fragment with this classification can bring about. -/
inductive Move (c : Config) (f : Fragment) (heard : Classification) :
    SpeechState → Decision → SpeechState → Prop
  | settled (reason : Reason) : Move c f heard (.interrupted reason) .ignore (.interrupted reason)
  | stop {state : SpeechState} (hi : state.isInterrupted = false) (hs : heard.isStop = true) :
      Move c f heard state (.interrupt .stopCommand) (.interrupted .stopCommand)
  | barred {state : SpeechState} (hi : state.isInterrupted = false) (hs : heard.isStop = false)
      (ha : c.allowInterruptions = false) : Move c f heard state .ignore state
  | late {since deadline : Instant} (hs : heard.isStop = false) (ha : c.allowInterruptions = true)
      (hd : deadline ≤ f.receivedAt) :
      Move c f heard (.pending since deadline) (.interrupt .timeout) (.interrupted .timeout)
  | falseAlarm {since deadline : Instant} (hs : heard.isStop = false)
      (ha : c.allowInterruptions = true) (hd : ¬ deadline ≤ f.receivedAt)
      (hf : heard.isOnlyFiller = true) :
      Move c f heard (.pending since deadline) .resume .speaking
  | confirmed {since deadline : Instant} (hs : heard.isStop = false)
      (ha : c.allowInterruptions = true) (hd : ¬ deadline ≤ f.receivedAt)
      (hf : heard.isOnlyFiller = false) :
      Move c f heard (.pending since deadline) (.interrupt .confirmed) (.interrupted .confirmed)
  | meaningful (hs : heard.isStop = false) (ha : c.allowInterruptions = true)
      (hf : heard.isOnlyFiller = false) (hm : c.meetsMinimums f heard.residual = true) :
      Move c f heard .speaking (.interrupt .meaningfulSpeech) (.interrupted .meaningfulSpeech)
  | wait {deadline : Instant} (hs : heard.isStop = false) (ha : c.allowInterruptions = true)
      (hm : (!heard.isOnlyFiller && c.meetsMinimums f heard.residual) = false)
      (hd : f.receivedAt.add? c.resumeTimeout = some deadline) :
      Move c f heard .speaking (.wait deadline) (.pending f.receivedAt deadline)
  | endless (hs : heard.isStop = false) (ha : c.allowInterruptions = true)
      (hm : (!heard.isOnlyFiller && c.meetsMinimums f heard.residual) = false)
      (hd : f.receivedAt.add? c.resumeTimeout = none) :
      Move c f heard .speaking (.interrupt .timeout) (.interrupted .timeout)

theorem transition_interrupted (c : Config) (f : Fragment) (heard : Classification) (s : Session)
    (hi : s.isInterrupted = true) : c.transition f heard s = (.ignore, s) := by
  obtain ⟨reason, hstate⟩ := Session.state_interrupted hi
  simp only [Config.transition, hstate]

/-- A stop command is looked for before anything else: neither a ban on interruptions nor a
deadline that has passed comes before it. -/
theorem transition_stop (c : Config) (f : Fragment) (heard : Classification) (s : Session)
    (hi : s.isInterrupted = false) (hs : heard.isStop = true) :
    c.transition f heard s = (.interrupt .stopCommand, s.interrupt .stopCommand) := by
  obtain ⟨state, startedAt, count⟩ := s
  cases state with
  | interrupted reason => exact absurd hi.symm Bool.false_ne_true
  | speaking => simp [Config.transition, hs]
  | pending since deadline => simp [Config.transition, hs]

theorem transition_barred (c : Config) (f : Fragment) (heard : Classification) (s : Session)
    (hs : heard.isStop = false) (ha : c.allowInterruptions = false) :
    c.transition f heard s = (.ignore, s) := by
  obtain ⟨state, startedAt, count⟩ := s
  cases state with
  | interrupted reason => rfl
  | speaking => simp [Config.transition, hs, ha]
  | pending since deadline => simp [Config.transition, hs, ha]

theorem transition_pending (c : Config) (f : Fragment) (heard : Classification)
    (since deadline startedAt : Instant) (count : Nat) (hs : heard.isStop = false)
    (ha : c.allowInterruptions = true) :
    let next := c.transition f heard ⟨.pending since deadline, startedAt, count⟩
    Move c f heard (.pending since deadline) next.1 next.2.state := by
  -- The deadline comes before what the fragment says.
  by_cases hd : deadline ≤ f.receivedAt
  · simp only [Config.transition, hs, ha, hd]
    exact .late hs ha hd
  · cases hf : heard.isOnlyFiller with
    | true =>
      simp only [Config.transition, hs, ha, hd, hf]
      exact .falseAlarm hs ha hd hf
    | false =>
      simp only [Config.transition, hs, ha, hd, hf]
      exact .confirmed hs ha hd hf

theorem transition_speaking (c : Config) (f : Fragment) (heard : Classification)
    (startedAt : Instant) (count : Nat) (hs : heard.isStop = false)
    (ha : c.allowInterruptions = true) :
    let next := c.transition f heard ⟨.speaking, startedAt, count⟩
    Move c f heard .speaking next.1 next.2.state := by
  cases hm : !heard.isOnlyFiller && c.meetsMinimums f heard.residual with
  | true =>
    obtain ⟨hf, hl⟩ := Bool.and_eq_true_iff.mp hm
    simp only [Config.transition, hs, ha, hm]
    exact .meaningful hs ha (by simpa using hf) hl
  | false =>
    -- Too little speech is waited upon, unless the deadline is beyond the last instant.
    cases hd : f.receivedAt.add? c.resumeTimeout with
    | some deadline =>
      simp only [Config.transition, hs, ha, hm, hd]
      exact .wait hs ha hm hd
    | none =>
      simp only [Config.transition, hs, ha, hm, hd]
      exact .endless hs ha hm hd

theorem transition_move (c : Config) (f : Fragment) (heard : Classification) (s : Session) :
    Move c f heard s.state (c.transition f heard s).1 (c.transition f heard s).2.state := by
  cases hi : s.isInterrupted with
  | true =>
    obtain ⟨reason, hstate⟩ := Session.state_interrupted hi
    rw [transition_interrupted c f heard s hi, hstate]
    exact .settled reason
  | false =>
    cases hs : heard.isStop with
    | true =>
      rw [transition_stop c f heard s hi hs]
      exact .stop hi hs
    | false =>
      cases ha : c.allowInterruptions with
      | false =>
        rw [transition_barred c f heard s hs ha]
        exact .barred hi hs ha
      | true =>
        obtain ⟨state, startedAt, count⟩ := s
        cases state with
        | interrupted reason => exact absurd hi.symm Bool.false_ne_true
        | pending since deadline =>
          exact transition_pending c f heard since deadline startedAt count hs ha
        | speaking => exact transition_speaking c f heard startedAt count hs ha

theorem poll_cases (s : Session) (now : Instant) :
    (poll s now = (none, s) ∧ ∀ deadline, s.deadline = some deadline → now < deadline) ∨
      ∃ since deadline, s.state = .pending since deadline ∧ deadline ≤ now ∧
        poll s now = (some (.interrupt .timeout), s.interrupt .timeout) := by
  obtain ⟨state, startedAt, count⟩ := s
  cases state with
  | speaking => exact .inl ⟨rfl, nofun⟩
  | interrupted reason => exact .inl ⟨rfl, nofun⟩
  | pending since deadline =>
    by_cases hd : deadline ≤ now
    · exact .inr ⟨since, deadline, rfl, hd, if_pos hd⟩
    · refine .inl ⟨if_neg hd, ?_⟩
      rintro _ ⟨⟩
      exact Int.not_le.mp hd

end BargeIn.Policy
