import Mathlib.Control.Monad.Basic
import BargeIn.Proofs.Pipeline.Standard

/-!
# Withheld acknowledgments over a whole run

What the agent says is withheld exactly if it is an acknowledgment and the last stop command that
counted is recent enough and has not been used up. The suppressor keeps one instant for this; the
run is what that instant stands for. The clock of the run never goes back, but the times that
stop commands carry are arbitrary.
-/

set_option autoImplicit false

namespace BargeIn.Pipeline

namespace Passage

variable {p : Passage Stage Shared}

def Arms (p : Passage Stage Shared) (r : Instant) : Prop :=
  ∃ shared f, .handler shared ∈ p.before.stages ∧ p.frame = .transcript f ∧ f.receivedAt = r ∧
    (shared.within p.before.world).isInterrupted = false ∧
    ((shared.within p.before.world).classify f).isStop = true

def Withholds (p : Passage Stage Shared) : Prop :=
  ∃ text, p.frame = .agentSpeech text ∧ p.result = .ok [.acknowledgmentSuppressed text]

def Clears (p : Passage Stage Shared) : Prop :=
  p.frame = .control .reset ∨ p.frame = .endOfStream ∨ p.Withholds

theorem Arms.time_unique {r r' : Instant} (h : p.Arms r) (h' : p.Arms r') : r = r' := by
  obtain ⟨_, f, _, hf, rfl, _⟩ := h
  obtain ⟨_, f', _, hf', rfl, _⟩ := h'
  obtain rfl : f = f' := Frame.transcript.inj (hf.symm.trans hf')
  rfl

end Passage

/-- At some time after the passages the last of them that arms is within its window, and nothing
has cleared it. -/
def Standing (window : Nat) (earlier : List (Passage Stage Shared)) (t : Instant) : Prop :=
  ∃ before a between r expiry, earlier = before ++ a :: between ∧ a.Arms r ∧
    (∀ p ∈ between, (∀ r, ¬p.Arms r) ∧ ¬p.Clears) ∧ r.add? window = some expiry ∧ t < expiry

theorem not_standing_nil (window : Nat) (t : Instant) : ¬Standing window [] t := by
  rintro ⟨before, a, between, _, _, he, _⟩
  exact absurd he.symm (by simp)

section

variable {window : Nat} {earlier : List (Passage Stage Shared)} {p : Passage Stage Shared}

theorem snoc_eq_split {before between : List (Passage Stage Shared)}
    {a : Passage Stage Shared} (h : earlier ++ [p] = before ++ a :: between) :
    (a = p ∧ between = []) ∨
      ∃ between', between = between' ++ [p] ∧ earlier = before ++ a :: between' := by
  rcases List.eq_nil_or_concat between with rfl | ⟨between', q, rfl⟩
  · obtain ⟨_, hp⟩ := List.append_inj' h rfl
    exact Or.inl ⟨(List.cons.inj hp).1.symm, rfl⟩
  · have hs : earlier ++ [p] = (before ++ a :: between') ++ [q] := by simpa using h
    obtain ⟨he, hp⟩ := List.append_inj' hs rfl
    obtain rfl := (List.cons.inj hp).1
    exact Or.inr ⟨between', List.concat_eq_append, he⟩

theorem standing_arms {r : Instant} (h : p.Arms r) (t : Instant) :
    Standing window (earlier ++ [p]) t ↔ ∃ expiry, r.add? window = some expiry ∧ t < expiry := by
  constructor
  · rintro ⟨before, a, between, r', expiry, hs, ha, hb, he, ht⟩
    rcases snoc_eq_split hs with ⟨rfl, _⟩ | ⟨between', rfl, _⟩
    · exact ⟨expiry, h.time_unique ha ▸ he, ht⟩
    · exact absurd h ((hb p (by simp)).1 r)
  · rintro ⟨expiry, he, ht⟩
    exact ⟨earlier, p, [], r, expiry, rfl, h, by simp, he, ht⟩

theorem standing_unarmed (h : ∀ r, ¬p.Arms r) (t : Instant) :
    Standing window (earlier ++ [p]) t ↔ ¬p.Clears ∧ Standing window earlier t := by
  constructor
  · rintro ⟨before, a, between, r, expiry, hs, ha, hb, he, ht⟩
    rcases snoc_eq_split hs with ⟨rfl, _⟩ | ⟨between', rfl, rfl⟩
    · exact absurd ha (h r)
    · refine ⟨(hb p (by simp)).2, before, a, between', r, expiry, rfl, ha, ?_, he, ht⟩
      exact fun q hq => hb q (List.mem_append_left [p] hq)
  · rintro ⟨hc, before, a, between, r, expiry, rfl, ha, hb, he, ht⟩
    refine ⟨before, a, between ++ [p], r, expiry, by simp, ha, ?_, he, ht⟩
    intro q hq
    rcases List.mem_append.mp hq with hq | hq
    · exact hb q hq
    · rw [List.mem_singleton.mp hq]
      exact ⟨h, hc⟩

end

namespace Listener

variable (l : Listener) (now : Instant)

theorem passage_arms_iff (f : Frame) (r : Instant) :
    (l.passage now f).Arms r ↔ ∃ fragment, f = .transcript fragment ∧ fragment.receivedAt = r ∧
      l.handler.isInterrupted = false ∧ (l.handler.classify fragment).isStop = true := by
  constructor
  · rintro ⟨shared, fragment, hshared, hf, hr, hi, hc⟩
    obtain rfl : shared = _ := by simpa [passage, chain, stage] using hshared
    exact ⟨fragment, hf, hr, hi, hc⟩
  · rintro ⟨fragment, hf, hr, hi, hc⟩
    exact ⟨_, fragment, List.mem_cons_self, hf, hr, hi, hc⟩

theorem passage_withholds_iff (text : String) :
    (l.passage now (.agentSpeech text)).Withholds ↔
      (l.suppressor.filter text now).1 = .suppress := by
  simp only [Passage.Withholds, passage, take_speech]
  cases (l.suppressor.filter text now).1 <;> simp

theorem passage_speaks {text : String} (h : ¬(l.passage now (.agentSpeech text)).Withholds) :
    (l.passage now (.agentSpeech text)).result = .ok [.agentSpeech text] := by
  rw [passage_withholds_iff] at h
  simp only [passage, take_speech]
  cases hv : (l.suppressor.filter text now).1 with
  | suppress => exact absurd hv h
  | speak => rfl

theorem take_arms {f : Frame} {r : Instant} (h : (l.passage now f).Arms r) :
    (l.take now f).2.suppressor = l.suppressor.arm r := by
  obtain ⟨fragment, rfl, rfl, hi, hc⟩ := (l.passage_arms_iff now f r).mp h
  have hs := l.call_transcript_suppressor fragment
  rwa [hi, hc] at hs

theorem take_clears {f : Frame} (h : (l.passage now f).Clears) :
    (l.take now f).2.suppressor = l.suppressor.disarm := by
  rcases h with hf | hf | hw
  · obtain rfl : f = .control .reset := hf
    rfl
  · obtain rfl : f = .endOfStream := hf
    rfl
  · obtain ⟨text, hf, _⟩ := id hw
    obtain rfl : f = .agentSpeech text := hf
    rw [take_speech]
    exact Suppressor.filter_suppress_disarms ((l.passage_withholds_iff now text).mp hw)

/-- A window that is over may be forgotten on the way, which makes no difference later. -/
theorem take_keeps {f : Frame} (ha : ∀ r, ¬(l.passage now f).Arms r)
    (hc : ¬(l.passage now f).Clears) {t : Instant} (ht : now ≤ t) :
    (l.take now f).2.suppressor.isArmed t = l.suppressor.isArmed t := by
  cases f with
  | transcript f =>
    have hs := l.call_transcript_suppressor f
    have hn : ¬(!l.handler.isInterrupted && (l.handler.classify f).isStop) = true := by
      intro hb
      obtain ⟨hi, hk⟩ := Bool.and_eq_true_iff.mp hb
      exact ha f.receivedAt ((l.passage_arms_iff now _ _).mpr ⟨f, rfl, rfl, by simpa using hi, hk⟩)
    rw [if_neg hn] at hs
    exact congrArg (·.isArmed t) hs
  | agentSpeech text =>
    have hw : (l.suppressor.filter text now).1 ≠ .suppress :=
      fun hv => hc (.inr (.inr ((l.passage_withholds_iff now text).mpr hv)))
    rw [take_speech]
    cases hv : (l.suppressor.filter text now).1 with
    | suppress => exact absurd hv hw
    | speak => exact Suppressor.filter_speak_isArmed ht hv
  | endOfStream => exact absurd (.inr (.inl rfl)) hc
  | control control =>
    cases control with
    | reset => exact absurd (.inl rfl) hc
    | addIgnoredWords words => rfl
  | _ => rfl

theorem take_untouched {f : Frame} (ha : l.suppressor.isArmed now = true)
    (hf : (∃ start, f = .utteranceStarted start) ∨ f = .utteranceEnded ∨
      ∃ text, f = .agentSpeech text ∧ l.suppressor.isAcknowledgment text = false) :
    (l.take now f).2.suppressor = l.suppressor := by
  rcases hf with ⟨start, rfl⟩ | rfl | ⟨text, rfl, hk⟩
  · rfl
  · rfl
  · rw [take_speech, Suppressor.filter_armed _ text now ha, hk]
    rfl

/-- A listener is where a run from `start` has led: the suppressor says at every later time what
the passages so far say. -/
structure Tracks (start : Listener) (earlier : List (Passage Stage Shared)) (l : Listener) :
    Prop where
  continues : Continues start l
  armed : ∀ t, (∀ p ∈ earlier, p.now ≤ t) →
    (l.suppressor.isArmed t = true ↔ Standing start.suppressor.window earlier t)

theorem tracks_fresh (policy : Policy) (conversation : Conversation) :
    Tracks (fresh policy conversation) [] (fresh policy conversation) := by
  constructor
  · exact .refl _
  · intro t _
    constructor
    · intro h
      exact absurd h Bool.false_ne_true
    · intro h
      exact absurd h (not_standing_nil _ t)

theorem tracks_take {start : Listener} {earlier : List (Passage Stage Shared)} {l : Listener}
    (h : Tracks start earlier l) (now : Instant) (f : Frame) :
    Tracks start (earlier ++ [l.passage now f]) (l.take now f).2 := by
  apply Tracks.mk (h.continues.trans (l.take_continues now f))
  intro t ht
  have hnow : now ≤ t := ht (l.passage now f) (by simp)
  have hearlier : ∀ p ∈ earlier, p.now ≤ t := fun p hp => ht p (List.mem_append_left _ hp)
  by_cases ha : ∃ r, (l.passage now f).Arms r
  · obtain ⟨r, ha⟩ := ha
    rw [standing_arms ha, l.take_arms now ha, Suppressor.isArmed_arm, h.continues.window]
  · have ha : ∀ r, ¬(l.passage now f).Arms r := fun r hr => ha ⟨r, hr⟩
    rw [standing_unarmed ha]
    by_cases hc : (l.passage now f).Clears
    · simp [l.take_clears now hc, hc]
    · rw [l.take_keeps now ha hc hnow, h.armed t hearlier]
      simp [hc]

theorem tracks_passages {start : Listener} {earlier : List (Passage Stage Shared)}
    {l : Listener} (h : Tracks start earlier l) (inputs : List (Instant × Frame)) {k : Nat}
    {p : Passage Stage Shared} (hp : (passages l.chain l.conversation inputs)[k]? = some p) :
    ∃ before, Tracks start (earlier ++ (passages l.chain l.conversation inputs).take k) before ∧
      p = before.passage p.now p.frame := by
  induction inputs generalizing earlier l k with
  | nil => simp [passages] at hp
  | cons input inputs ih =>
    obtain ⟨now, f⟩ := input
    rw [passages_cons] at hp ⊢
    cases k with
    | zero =>
      obtain rfl : l.passage now f = p := Option.some.inj hp
      exact ⟨l, by simpa using h, rfl⟩
    | succ k =>
      obtain ⟨before, hb, hpb⟩ := ih (tracks_take h now f) hp
      exact ⟨before, by simpa using hb, hpb⟩

section

variable {policy : Policy} {conversation : Conversation} {l : Listener}
  {earlier : List (Passage Stage Shared)}

theorem tracks_acknowledges (h : Tracks (fresh policy conversation) earlier l) (text : String) :
    l.suppressor.isAcknowledgment text = true ↔ policy.config.Acknowledges text := by
  rw [Suppressor.isAcknowledgment_congr h.continues.phrases]
  exact Suppressor.isAcknowledgment_ofConfig policy.config text

theorem tracks_withholds (h : Tracks (fresh policy conversation) earlier l) {now : Instant}
    (hnow : ∀ p ∈ earlier, p.now ≤ now) (text : String) :
    (l.passage now (.agentSpeech text)).Withholds ↔
      policy.config.Acknowledges text ∧ Standing policy.config.ackWindow earlier now := by
  rw [passage_withholds_iff, Suppressor.filter_suppress_iff, tracks_acknowledges h,
    h.armed now hnow]
  exact and_comm

theorem tracks_untouched (h : Tracks (fresh policy conversation) earlier l) {now : Instant}
    {f : Frame} (ha : l.suppressor.isArmed now = true)
    (hf : (∃ start, f = .utteranceStarted start) ∨ f = .utteranceEnded ∨
      ∃ text, f = .agentSpeech text ∧ ¬policy.config.Acknowledges text) :
    (l.take now f).2.suppressor = l.suppressor := by
  apply l.take_untouched now ha (hf.imp_right (.imp_right _))
  rintro ⟨text, hf, hk⟩
  exact ⟨text, hf, Bool.eq_false_iff.mpr fun ht => hk ((tracks_acknowledges h text).mp ht)⟩

end

end Listener

/-- The passage at `i` is a stop command, and none between it and `k` is withheld. -/
def Origin (log : List (Passage Stage Shared)) (i k : Nat) : Prop :=
  i < k ∧ (∃ a r, log[i]? = some a ∧ a.Arms r) ∧
    ∀ (j : Nat) q, i < j → j < k → log[j]? = some q → ¬q.Withholds

theorem standing_origin {window : Nat} {log : List (Passage Stage Shared)} {k : Nat}
    {t : Instant} (h : Standing window (log.take k) t) : ∃ i, Origin log i k := by
  obtain ⟨before, a, between, r, expiry, hs, ha, hb, _⟩ := h
  have hlog : ∀ j, j < k → log[j]? = (before ++ a :: between)[j]? := by
    intro j hj
    rw [← hs, List.getElem?_take_of_lt hj]
  have hi : before.length < k := by
    have hl := congrArg List.length hs
    simp only [List.length_take, List.length_append, List.length_cons] at hl
    omega
  refine ⟨before.length, hi, ⟨a, r, by simp [hlog _ hi], ha⟩, ?_⟩
  intro j q hij hj hq hw
  have hmem : q ∈ between := by
    rw [hlog j hj, List.getElem?_append_right (by omega), List.getElem?_cons] at hq
    rw [if_neg (by omega)] at hq
    exact List.mem_of_getElem? hq
  exact (hb q hmem).2 (.inr (.inr hw))

/-- Different passages that are withheld have different origins, in the same order. -/
theorem exists_origins {log : List (Passage Stage Shared)}
    (h : ∀ (k : Nat) p, log[k]? = some p → p.Withholds → ∃ i, Origin log i k) :
    ∃ origin : Nat → Nat, ∀ k p, log[k]? = some p → p.Withholds →
      origin k < k ∧ (∃ a r, log[origin k]? = some a ∧ a.Arms r) ∧
      ∀ j q, j < k → log[j]? = some q → q.Withholds → origin j < origin k := by
  have hchoice : ∀ k, ∃ i, ∀ p, log[k]? = some p → p.Withholds → Origin log i k := by
    intro k
    by_cases hk : ∃ p, log[k]? = some p ∧ p.Withholds
    · obtain ⟨p, hp, hw⟩ := hk
      obtain ⟨i, hi⟩ := h k p hp hw
      exact ⟨i, fun _ _ _ => hi⟩
    · exact ⟨0, fun p hp hw => absurd ⟨p, hp, hw⟩ hk⟩
  obtain ⟨origin, ho⟩ := Classical.skolem.mp hchoice
  exists origin
  intro k p hp hw
  obtain ⟨hlt, harms, hbetween⟩ := ho k p hp hw
  refine ⟨hlt, harms, ?_⟩
  intro j q hj hq hqw
  have hj' : origin j < j := (ho j q hq hqw).1
  have hle : ¬origin k < j := fun hk => hbetween j q hk hj hq hqw
  omega

theorem earlier_now_le {log : List (Passage Stage Shared)}
    (h : (log.map fun p => (p.now, p.frame)).Pairwise fun a b => a.1 ≤ b.1) {k : Nat}
    {p : Passage Stage Shared} (hp : log[k]? = some p) : ∀ q ∈ log.take k, q.now ≤ p.now := by
  have hs := List.pairwise_iff_getElem.mp (List.pairwise_map.mp h)
  intro q hq
  obtain ⟨hk, rfl⟩ := List.getElem?_eq_some_iff.mp hp
  obtain ⟨j, hj, rfl⟩ := List.mem_take_iff_getElem.mp hq
  exact hs j k (by omega) hk (by omega)

/-- Over a run whose clock never goes back, the agent's speech is withheld exactly if it is an
acknowledgment while a stop command stands, and each stop command withholds at most once. -/
theorem acknowledgments_withheld (policy : Policy) (conversation : Conversation)
    (inputs : List (Instant × Frame)) (hclock : inputs.Pairwise fun a b => a.1 ≤ b.1) :
    let log := passages (interruptionChain policy) conversation inputs
    log.map (fun p => (p.now, p.frame)) = inputs ∧
    (∀ k p text, log[k]? = some p → p.frame = .agentSpeech text →
      (p.Withholds ↔ policy.config.Acknowledges text ∧
        Standing policy.config.ackWindow (log.take k) p.now) ∧
      (¬p.Withholds → p.result = .ok [.agentSpeech text])) ∧
    (∃ origin : Nat → Nat, ∀ k p, log[k]? = some p → p.Withholds →
      origin k < k ∧ (∃ a r, log[origin k]? = some a ∧ a.Arms r) ∧
      ∀ j q, j < k → log[j]? = some q → q.Withholds → origin j < origin k) ∧
    ∀ p ∈ log, ((∃ start, p.frame = .utteranceStarted start) ∨ p.frame = .utteranceEnded ∨
        ∃ text, p.frame = .agentSpeech text ∧ ¬policy.config.Acknowledges text) →
      p.before.world.suppressor.isArmed p.now = true →
        p.after.world.suppressor = p.before.world.suppressor := by
  intro log
  have hinputs : log.map (fun p => (p.now, p.frame)) = inputs := passages_inputs _ _ inputs
  have htracks : ∀ {k p}, log[k]? = some p → ∃ l : Listener,
      Listener.Tracks (.fresh policy conversation) (log.take k) l ∧ p = l.passage p.now p.frame :=
    fun hp => Listener.tracks_passages (Listener.tracks_fresh policy conversation) inputs hp
  have hwithholds : ∀ k p text, log[k]? = some p → p.frame = .agentSpeech text →
      (p.Withholds ↔ policy.config.Acknowledges text ∧
        Standing policy.config.ackWindow (log.take k) p.now) ∧
      (¬p.Withholds → p.result = .ok [.agentSpeech text]) := by
    intro k p text hp hf
    obtain ⟨l, ht, hpl⟩ := htracks hp
    have hnow : ∀ q ∈ log.take k, q.now ≤ p.now := earlier_now_le (hinputs ▸ hclock) hp
    rw [hf] at hpl
    rw [hpl]
    exact ⟨Listener.tracks_withholds ht hnow text, l.passage_speaks p.now⟩
  refine ⟨hinputs, hwithholds, ?_, ?_⟩
  · apply exists_origins
    intro k p hp hw
    obtain ⟨text, hf, _⟩ := id hw
    exact standing_origin ((hwithholds k p text hp hf).1.mp hw).2
  · intro p hp hf ha
    obtain ⟨k, hk⟩ := List.getElem?_of_mem hp
    obtain ⟨l, ht, hpl⟩ := htracks hk
    rw [hpl] at ha ⊢
    exact Listener.tracks_untouched ht ha hf

/-- An acknowledgment is withheld once, although the utterance has ended before it. -/
theorem acknowledgments_withheld_first :
    let policy : Policy :=
      ⟨{ acknowledgments := ["ok"] }, .umAndStop, by decide +kernel⟩
    let inputs : List (Instant × Frame) :=
      [(⟨0⟩, .utteranceStarted ⟨0⟩),
        (⟨1000000000⟩, .transcript { text := "Stop!", receivedAt := ⟨900000000⟩ }),
        (⟨1000000000⟩, .utteranceEnded), (⟨2000000000⟩, .agentSpeech "OK."),
        (⟨3000000000⟩, .agentSpeech "ok")]
    let log := passages (interruptionChain policy) {} inputs
    inputs.Pairwise (fun a b => a.1 ≤ b.1) ∧
      (log.drop 3).map (fun p => (p.now, p.frame, p.result)) =
        [(⟨2000000000⟩, .agentSpeech "OK.", .ok [.acknowledgmentSuppressed "OK."]),
          (⟨3000000000⟩, .agentSpeech "ok", .ok [.agentSpeech "ok"])] ∧
      Standing policy.config.ackWindow (log.take 3) ⟨2000000000⟩ := by
  intro policy inputs log
  have hclock : inputs.Pairwise fun a b => a.1 ≤ b.1 := by decide
  have hlog : (log.drop 3).map (fun p => (p.now, p.frame, p.result)) =
      [(⟨2000000000⟩, .agentSpeech "OK.", .ok [.acknowledgmentSuppressed "OK."]),
        (⟨3000000000⟩, .agentSpeech "ok", .ok [.agentSpeech "ok"])] := by decide +kernel
  have hfirst := congrArg (·[0]?) hlog
  simp only [List.getElem?_map, List.getElem?_drop, Nat.add_zero] at hfirst
  obtain ⟨p, hp, he⟩ := Option.map_eq_some_iff.mp hfirst
  obtain ⟨hnow, hframe, hresult⟩ := by simpa only [Prod.mk.injEq] using he
  obtain ⟨_, hwithheld, _⟩ := acknowledgments_withheld policy {} inputs hclock
  have hiff := (hwithheld 3 p _ hp hframe).1
  rw [hnow] at hiff
  exact ⟨hclock, hlog, (hiff.mp ⟨_, hframe, hresult⟩).2⟩

end BargeIn.Pipeline
