import BargeIn.Policy.Suppressor

/-!
# The armed suppressor

Whether an acknowledgment is withheld depends only on whether the suppressor is armed at that
moment. Once its window is over it stays disarmed until it is armed again. This holds of any
sequence of operations, in whatever order their instants come.
-/

set_option autoImplicit false

namespace BargeIn

def Policy.Config.Acknowledges (c : Config) (text : String) : Prop :=
  ∃ phrase ∈ c.acknowledgments, ∃ entry,
    Text.normalizeEntry phrase = some entry ∧ Text.normalizeEntry text = some entry

namespace Suppressor

theorem isArmed_iff (s : Suppressor) (t : Instant) :
    s.isArmed t = true ↔ ∃ expiry, s.armedUntil = some expiry ∧ t < expiry := by
  unfold isArmed
  cases s.armedUntil <;> simp

@[simp] theorem isArmed_disarm (s : Suppressor) (t : Instant) : s.disarm.isArmed t = false := rfl

theorem isArmed_arm (s : Suppressor) (r t : Instant) :
    (s.arm r).isArmed t = true ↔ ∃ expiry, r.add? s.window = some expiry ∧ t < expiry :=
  isArmed_iff _ t

theorem isArmed_earlier {s : Suppressor} {now t : Instant} (hle : now ≤ t)
    (h : s.isArmed t = true) : s.isArmed now = true := by
  obtain ⟨expiry, he, ht⟩ := (isArmed_iff s t).mp h
  exact (isArmed_iff s now).mpr ⟨expiry, he, Int.lt_of_le_of_lt hle ht⟩

theorem isAcknowledgment_congr {s next : Suppressor} (h : next.phrases = s.phrases)
    (text : String) : next.isAcknowledgment text = s.isAcknowledgment text := by
  simp only [isAcknowledgment, h]

theorem isAcknowledgment_ofPhrases (phrases : List String) (window : Nat) (text : String) :
    (ofPhrases phrases window).isAcknowledgment text = true ↔ ∃ phrase ∈ phrases, ∃ entry,
      Text.normalizeEntry phrase = some entry ∧ Text.normalizeEntry text = some entry := by
  unfold isAcknowledgment
  cases Text.normalizeEntry text <;> simp [ofPhrases]

theorem isAcknowledgment_ofConfig (c : Policy.Config) (text : String) :
    (ofConfig c).isAcknowledgment text = true ↔ c.Acknowledges text :=
  isAcknowledgment_ofPhrases c.acknowledgments c.ackWindow text

theorem filter_armed (s : Suppressor) (text : String) (now : Instant) (h : s.isArmed now = true) :
    s.filter text now =
      if s.isAcknowledgment text then (.suppress, s.disarm) else (.speak, s) := by
  obtain ⟨expiry, he, ht⟩ := (isArmed_iff s now).mp h
  have hn : ¬expiry ≤ now := Int.not_le.mpr ht
  simp [filter, he, hn]

theorem filter_unarmed (s : Suppressor) (text : String) (now : Instant)
    (h : s.isArmed now = false) : s.filter text now = (.speak, s.disarm) := by
  obtain ⟨phrases, window, armedUntil⟩ := s
  cases armedUntil with
  | none => rfl
  | some expiry =>
    have hn : ¬now < expiry := of_decide_eq_false h
    have he : expiry ≤ now := Int.not_lt.mp hn
    simp [filter, he]

theorem filter_suppress_iff (s : Suppressor) (text : String) (now : Instant) :
    (s.filter text now).1 = .suppress ↔ s.isArmed now = true ∧ s.isAcknowledgment text = true := by
  cases ha : s.isArmed now with
  | false => simp [filter_unarmed s text now ha]
  | true => cases hk : s.isAcknowledgment text <;> simp [filter_armed s text now ha, hk]

theorem filter_suppress_disarms {s : Suppressor} {text : String} {now : Instant}
    (h : (s.filter text now).1 = .suppress) : (s.filter text now).2 = s.disarm := by
  obtain ⟨ha, hk⟩ := (filter_suppress_iff s text now).mp h
  rw [filter_armed s text now ha, if_pos hk]

theorem filter_settings (s : Suppressor) (text : String) (now : Instant) :
    (s.filter text now).2.phrases = s.phrases ∧ (s.filter text now).2.window = s.window := by
  cases ha : s.isArmed now with
  | false => exact filter_unarmed s text now ha ▸ ⟨rfl, rfl⟩
  | true =>
    rw [filter_armed s text now ha]
    split <;> exact ⟨rfl, rfl⟩

theorem filter_speak_isArmed {s : Suppressor} {text : String} {now t : Instant} (hle : now ≤ t)
    (h : (s.filter text now).1 = .speak) : (s.filter text now).2.isArmed t = s.isArmed t := by
  cases ha : s.isArmed now with
  | false =>
    rw [filter_unarmed s text now ha, isArmed_disarm]
    cases ht : s.isArmed t with
    | false => rfl
    | true => exact absurd ((isArmed_earlier hle ht).symm.trans ha) (by simp)
  | true =>
    rw [filter_armed s text now ha] at h ⊢
    cases hk : s.isAcknowledgment text with
    | false => rfl
    | true => simp [hk] at h

/-! ## Sequences of operations -/

inductive Operation
  | arm (now : Instant)
  | disarm
  | isArmed (now : Instant)
  | filter (text : String) (now : Instant)
deriving Repr, DecidableEq

def perform (s : Suppressor) : Operation → Suppressor
  | .arm now => s.arm now
  | .disarm => s.disarm
  | .isArmed _ => s
  | .filter text now => (s.filter text now).2

def after (s : Suppressor) (operations : List Operation) : Suppressor :=
  operations.foldl perform s

theorem perform_settings (s : Suppressor) (operation : Operation) :
    (s.perform operation).phrases = s.phrases ∧ (s.perform operation).window = s.window := by
  cases operation with
  | filter text now => exact filter_settings s text now
  | _ => exact ⟨rfl, rfl⟩

theorem after_settings (s : Suppressor) (operations : List Operation) :
    (s.after operations).phrases = s.phrases ∧ (s.after operations).window = s.window := by
  induction operations generalizing s with
  | nil => exact ⟨rfl, rfl⟩
  | cons operation later ih =>
    obtain ⟨hphrases, hwindow⟩ := ih (s.perform operation)
    obtain ⟨hphrases', hwindow'⟩ := s.perform_settings operation
    exact ⟨hphrases.trans hphrases', hwindow.trans hwindow'⟩

theorem filter_disarmed (s : Suppressor) (text : String) (now : Instant) :
    s.disarm.filter text now = (.speak, s.disarm) :=
  rfl

/-- What is disarmed stays so until it is armed. -/
theorem after_disarmed (s : Suppressor) {operations : List Operation}
    (h : ∀ now, .arm now ∉ operations) : s.disarm.after operations = s.disarm := by
  induction operations with
  | nil => rfl
  | cons operation later ih =>
    have hsame : s.disarm.perform operation = s.disarm := by
      cases operation with
      | arm now => exact absurd List.mem_cons_self (h now)
      | _ => rfl
    rw [after, List.foldl_cons, hsame]
    exact ih fun now hmem => h now (List.mem_cons_of_mem operation hmem)

/-- Speech uses up the suppressor if it is withheld or comes when the window is over. -/
def Spends (s : Suppressor) (text : String) (now : Instant) : Prop :=
  (s.filter text now).1 = .suppress ∨ ∃ expiry, s.armedUntil = some expiry ∧ expiry ≤ now

theorem filter_spends {s : Suppressor} {text : String} {now : Instant} (h : s.Spends text now) :
    (s.filter text now).2 = s.disarm := by
  rcases h with hsuppress | ⟨expiry, he, hover⟩
  · exact filter_suppress_disarms hsuppress
  · simp [filter, he, hover]

theorem filter_keeps {s : Suppressor} {text : String} {now : Instant} (h : ¬ s.Spends text now) :
    (s.filter text now).2 = s := by
  obtain ⟨hspeak, hopen⟩ := not_or.mp h
  cases ha : s.isArmed now with
  | true =>
    rw [filter_armed s text now ha] at hspeak ⊢
    split
    case isTrue hk => simp [hk] at hspeak
    case isFalse => rfl
  | false =>
    -- An unarmed suppressor whose window is not over has none.
    have hnone : s.armedUntil = none := by
      cases he : s.armedUntil with
      | none => rfl
      | some expiry =>
        have hn : ¬ now < expiry := fun hlt =>
          absurd ((isArmed_iff s now).mpr ⟨expiry, he, hlt⟩) (by simp [ha])
        exact absurd ⟨expiry, he, Int.not_lt.mp hn⟩ hopen
    simp [filter, hnone]

/-- Speech is withheld exactly if it is an acknowledgment and the suppressor is armed, and not
twice without its being armed in between; other speech changes nothing while the window is open;
and what arming does does not depend on what was done before. -/
theorem armed_once (phrases : List String) (window : Nat) (operations : List Operation) :
    let s := (ofPhrases phrases window).after operations
    (∀ text now, (s.filter text now).1 = .suppress ↔ s.isArmed now = true ∧
      ∃ phrase ∈ phrases, ∃ entry,
        Text.normalizeEntry phrase = some entry ∧ Text.normalizeEntry text = some entry) ∧
    (∀ text now later text' now', (s.filter text now).1 = .suppress →
      (((s.filter text now).2.after later).filter text' now').1 = .suppress →
      ∃ between, .arm between ∈ later) ∧
    (∀ text now, ¬ s.Spends text now → (s.filter text now).2 = s) ∧
    (∀ text now, s.Spends text now → ∀ later, (∀ between, .arm between ∉ later) →
      ∀ t, ((s.filter text now).2.after later).isArmed t = false) ∧
    ∀ now t, (s.arm now).isArmed t = true ↔ ∃ expiry, now.add? window = some expiry ∧ t < expiry := by
  intro s
  obtain ⟨hphrases, hwindow⟩ := after_settings (ofPhrases phrases window) operations
  have hspent : ∀ text now, s.Spends text now → ∀ later, (∀ between, .arm between ∉ later) →
      (s.filter text now).2.after later = s.disarm := by
    intro text now hs later hlater
    rw [filter_spends hs]
    exact after_disarmed s hlater
  refine ⟨?_, ?_, fun text now => filter_keeps, ?_, ?_⟩
  · intro text now
    rw [filter_suppress_iff, isAcknowledgment_congr hphrases, isAcknowledgment_ofPhrases]
  · intro text now later text' now' hfirst hsecond
    apply Classical.byContradiction
    intro hnone
    rw [hspent text now (.inl hfirst) later (not_exists.mp hnone)] at hsecond
    exact absurd hsecond (by simp [filter_disarmed])
  · intro text now hs later hlater t
    rw [hspent text now hs later hlater]
    exact isArmed_disarm s t
  · intro now t
    rw [isArmed_arm]
    exact hwindow ▸ Iff.rfl

/-- The clock goes back, and speech at the end of the window takes away what would have been left
of it before. -/
theorem armed_once_backwards :
    let operations : List Operation := [.arm ⟨10⟩, .filter "Okay?" ⟨12⟩, .arm ⟨0⟩, .isArmed ⟨9⟩]
    let s := (ofPhrases ["OK", "okay!"] 5).after operations
    s.isArmed ⟨4⟩ = true ∧ (s.filter "Okay." ⟨-3⟩).1 = .suppress ∧
      (s.filter "Okay, so" ⟨4⟩).2 = s ∧ s.Spends "well" ⟨5⟩ ∧
      ((s.filter "well" ⟨5⟩).2.after [.isArmed ⟨7⟩, .disarm]).isArmed ⟨4⟩ = false ∧
      ∀ t, ((ofPhrases ["ok"] longestDuration).arm ⟨0⟩).isArmed t = false := by
  intro operations s
  obtain ⟨hwithheld, -, hkept, hspent, -⟩ := armed_once ["OK", "okay!"] 5 operations
  obtain ⟨-, -, -, -, harmed⟩ := armed_once ["ok"] longestDuration []
  have hspends : s.Spends "well" ⟨5⟩ := .inr ⟨⟨5⟩, by decide +kernel, by decide⟩
  refine ⟨by decide +kernel, (hwithheld "Okay." ⟨-3⟩).mpr ?_, hkept _ _ ?_, hspends,
    hspent _ _ hspends _ (by simp) _, fun t => ?_⟩
  · exact ⟨by decide +kernel, "okay!", by decide, "okay", by decide +kernel, by decide +kernel⟩
  · rintro (hsuppress | ⟨expiry, he, hover⟩)
    · exact absurd hsuppress (by decide +kernel)
    · have hfive : s.armedUntil = some ⟨5⟩ := by decide +kernel
      obtain rfl := Option.some.inj (hfive.symm.trans he)
      exact absurd hover (by decide)
  · rw [← Bool.not_eq_true]
    intro ht
    obtain ⟨expiry, he, -⟩ := (harmed ⟨0⟩ t).mp ht
    have hnone : Instant.add? ⟨0⟩ longestDuration = none := by decide +kernel
    exact absurd (hnone.symm.trans he) (by simp)

end Suppressor

end BargeIn
