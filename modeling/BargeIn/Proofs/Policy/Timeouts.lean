import BargeIn.Proofs.Policy.Waiting

/-!
# Two ways to time out

A deadline can be found passed by a look at the clock or by the next fragment. Looks at the clock
that come no later than the fragment make no difference to what has become of the session after
it, nor to how it was interrupted.
-/

set_option autoImplicit false

namespace BargeIn.Policy

def interruptions (decisions : List Decision) : List Reason :=
  decisions.filterMap fun
    | .interrupt reason => some reason
    | _ => none

def pollEach (s : Session) : List Instant → List Decision × Session
  | [] => ([], s)
  | now :: later =>
    let (decision, next) := poll s now
    let (decisions, last) := pollEach next later
    (decision.toList ++ decisions, last)

theorem pollEach_interrupted {s : Session} (hi : s.isInterrupted = true) (polls : List Instant) :
    pollEach s polls = ([], s) := by
  induction polls with
  | nil => rfl
  | cons now later ih =>
    simp only [pollEach, poll_interrupted s now hi, ih]
    rfl

/-- At most one look at the clock finds the deadline passed, and the others change nothing. -/
theorem pollEach_cases (s : Session) (polls : List Instant) :
    pollEach s polls = ([], s) ∨ ∃ since deadline, s.state = .pending since deadline ∧
      (∃ now ∈ polls, deadline ≤ now) ∧
      pollEach s polls = ([.interrupt .timeout], s.interrupt .timeout) := by
  induction polls with
  | nil => exact .inl rfl
  | cons now later ih =>
    rcases poll_cases s now with ⟨hp, -⟩ | ⟨since, deadline, hs, hd, hp⟩
    · have hskip : pollEach s (now :: later) = pollEach s later := by
        simp only [pollEach, hp]
        rfl
      rw [hskip]
      refine ih.imp_right ?_
      rintro ⟨since, deadline, hs, ⟨t, ht, hd⟩, hfired⟩
      exact ⟨since, deadline, hs, ⟨t, List.mem_cons_of_mem now ht, hd⟩, hfired⟩
    · refine .inr ⟨since, deadline, hs, ⟨now, List.mem_cons_self, hd⟩, ?_⟩
      simp only [pollEach, hp, pollEach_interrupted (s := s.interrupt .timeout) rfl later]
      rfl

theorem decide_of_transition {p : Policy} {f : Fragment} {s next : Session} {decision : Decision}
    (h : p.config.transition f (p.classifier.classify f.text) s = (decision, next)) :
    (p.decide f s).1.decision = decision ∧ (p.decide f s).2 = next := by
  obtain ⟨rfl, rfl⟩ := Prod.mk.inj h
  exact ⟨rfl, rfl⟩

theorem decide_settled (p : Policy) (f : Fragment) (s : Session) (reason : Reason) :
    (p.decide f (s.interrupt reason)).1.decision = .ignore ∧
      (p.decide f (s.interrupt reason)).2 = s.interrupt reason :=
  decide_of_transition (transition_interrupted p.config f _ _ rfl)

/-- A fragment that comes at the deadline or later finds it passed, since only a session that may
be interrupted waits. -/
theorem decide_late (p : Policy) {start : Instant} {history : List Encounter} {f : Fragment}
    {since deadline : Instant}
    (hs : (p.config.through (.start start) history).state = .pending since deadline)
    (hheard : (p.classifier.classify f.text).isStop = false) (hd : deadline ≤ f.receivedAt) :
    let s := p.config.through (.start start) history
    (p.decide f s).1.decision = .interrupt .timeout ∧ (p.decide f s).2 = s.interrupt .timeout := by
  intro s
  obtain ⟨_, -, hwaited⟩ := Config.through_pending hs
  obtain ⟨ha, -⟩ := hwaited.due
  apply decide_of_transition
  simp [Config.transition, s, hs, ha, hheard, hd]

/-- Looks at the clock before a fragment are without consequence: the fragment finds the deadline
passed if they have not. A stop command after them interrupts a session that they have not
interrupted. -/
theorem timeouts_agree (p : Policy) (start : Instant) (history : List Encounter) (f : Fragment)
    (polls : List Instant) :
    let s := p.config.through (.start start) history
    let fired := (pollEach s polls).1
    let polled := (pollEach s polls).2
    let late := p.decide f polled
    let alone := p.decide f s
    ((p.classifier.classify f.text).isStop = false → (∀ now ∈ polls, now ≤ f.receivedAt) →
      late.2 = alone.2 ∧
      interruptions (fired ++ [late.1.decision]) = interruptions [alone.1.decision] ∧
      (interruptions [alone.1.decision]).length ≤ 1 ∧
      (fired ≠ [] → late.1.decision = .ignore) ∧
      (fired = [] → polled = s)) ∧
    ((p.classifier.classify f.text).isStop = true → s.isInterrupted = false →
      alone.2.state = .interrupted .stopCommand ∧
      interruptions [alone.1.decision] = [.stopCommand] ∧
      ∃ reason, late.2.state = .interrupted reason ∧
        interruptions (fired ++ [late.1.decision]) = [reason]) := by
  intro s fired polled late alone
  have hsingle : ∀ d, (interruptions [d]).length ≤ 1 := fun d => List.length_filterMap_le _ [d]
  have hstop : (p.classifier.classify f.text).isStop = true → s.isInterrupted = false →
      alone.1.decision = .interrupt .stopCommand ∧ alone.2 = s.interrupt .stopCommand :=
    fun hheard hi => decide_of_transition (transition_stop p.config f _ s hi hheard)
  rcases pollEach_cases s polls with hnone | ⟨since, deadline, hs, ⟨now, hnow, hd⟩, hpoll⟩
  · have hfired : fired = [] := congrArg Prod.fst hnone
    have hpolled : polled = s := congrArg Prod.snd hnone
    have hlate : late = alone := congrArg (p.decide f) hpolled
    rw [hfired, hlate]
    refine ⟨fun _ _ => ⟨rfl, rfl, hsingle _, fun h => absurd rfl h, fun _ => hpolled⟩, ?_⟩
    intro hheard hi
    obtain ⟨hdecision, hsession⟩ := hstop hheard hi
    rw [hdecision, hsession]
    exact ⟨rfl, rfl, .stopCommand, rfl, rfl⟩
  · have hfired : fired = [.interrupt .timeout] := congrArg Prod.fst hpoll
    have hpolled : polled = s.interrupt .timeout := congrArg Prod.snd hpoll
    have hlate : late = p.decide f (s.interrupt .timeout) := congrArg (p.decide f) hpolled
    obtain ⟨hignored, hsame⟩ := decide_settled p f s .timeout
    rw [hfired, hlate, hignored, hsame]
    constructor
    · intro hheard hpolls
      -- The fragment is no earlier than the look at the clock that fired.
      have hdue : deadline ≤ f.receivedAt := Int.le_trans hd (hpolls now hnow)
      have htimeout : alone.1.decision = .interrupt .timeout ∧ alone.2 = s.interrupt .timeout :=
        decide_late p hs hheard hdue
      rw [htimeout.1, htimeout.2]
      exact ⟨rfl, rfl, hsingle _, fun _ => rfl, fun h => absurd h (List.cons_ne_nil _ _)⟩
    · intro hheard hi
      obtain ⟨hdecision, hsession⟩ := hstop hheard hi
      rw [hdecision, hsession]
      exact ⟨rfl, rfl, .timeout, rfl, rfl⟩

/-- The second look at the clock finds the deadline passed, and the fragment that comes with it
would have found it. -/
theorem timeouts_agree_at_deadline :
    let p : Policy := ⟨{ falseInterruptionTimeout := .ofNat 3 },
      ⟨⟨[("um", none)], ["hold on"], 1, 2⟩, true⟩, by decide +kernel⟩
    let history : List Encounter := [.fragment { text := "Um", receivedAt := ⟨5⟩ } .onlyFiller]
    let polls : List Instant := [⟨3000000004⟩, ⟨3000000005⟩, ⟨3⟩]
    let filler : Fragment := { text := "um!", receivedAt := ⟨3000000005⟩ }
    let stop : Fragment := { text := "Hold on.", receivedAt := ⟨0⟩ }
    (pollEach (p.config.through (.start ⟨0⟩) history) polls).1 = [.interrupt .timeout] ∧
      (p.decide filler (pollEach (p.config.through (.start ⟨0⟩) history) polls).2).2 =
        (p.decide filler (p.config.through (.start ⟨0⟩) history)).2 ∧
      (p.decide filler (pollEach (p.config.through (.start ⟨0⟩) history) polls).2).1.decision =
        .ignore ∧
      (p.decide stop (p.config.through (.start ⟨0⟩) history)).2.state =
        .interrupted .stopCommand := by
  intro p history polls filler stop
  have hheard : (p.classifier.classify filler.text).isStop = false := by decide +kernel
  have hcommand : (p.classifier.classify stop.text).isStop = true := by decide +kernel
  have hfired : (pollEach (p.config.through (.start ⟨0⟩) history) polls).1 =
      [.interrupt .timeout] := by decide +kernel
  obtain ⟨hsame, -, -, hignored, -⟩ :=
    (timeouts_agree p ⟨0⟩ history filler polls).1 hheard (by decide)
  obtain ⟨hstopped, -⟩ := (timeouts_agree p ⟨0⟩ history stop polls).2 hcommand (by decide +kernel)
  exact ⟨hfired, hsame, hignored (hfired ▸ List.cons_ne_nil _ _), hstopped⟩

end BargeIn.Policy
