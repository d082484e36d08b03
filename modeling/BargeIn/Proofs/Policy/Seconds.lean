import BargeIn.Proofs.Policy.Durations
import BargeIn.Replay.Event

/-!
# Seconds as whole nanoseconds

Every number of seconds has a duration: what it denotes, cut to the range from zero to an hour and
rounded to the nearest nanosecond. Spoken durations are rounded in the same way, so that rounding
never makes speech too short that is long enough.
-/

set_option autoImplicit false

namespace BargeIn

open Number

namespace Number.Binary64

def lessThan (x y : Binary64) : Bool :=
  match x.value?, y.value? with
  | some a, some b => a < b
  | _, _ => false

theorem lessThan_iff {x y : Binary64} {a b : WithBotTop ℚ} (hx : x.value? = some a)
    (hy : y.value? = some b) : x.lessThan y = true ↔ a < b := by
  simp [lessThan, hx, hy]

def clamp (x low high : Binary64) : Binary64 :=
  let x := if x.lessThan low then low else x
  if high.lessThan x then high else x

theorem value?_zero : zero.value? = some ((0 : ℚ) : WithBotTop ℚ) := by
  have hunits : zero.units = 0 := by decide
  have hrat : zero.toRat = 0 := by rw [toRat_eq (by decide), hunits, Nat.cast_zero, zero_div]
  rw [value?_finite (by decide), hrat]

theorem value?_hour : (ofNat maxSeconds).value? = some ((maxSeconds : ℚ) : WithBotTop ℚ) := by
  have hunits : (ofNat maxSeconds).units = maxSeconds * scale := by decide +kernel
  have hscale : (scale : ℚ) ≠ 0 := by exact_mod_cast scale_pos.ne'
  have hrat : (ofNat maxSeconds).toRat = maxSeconds := by
    rw [toRat_eq (by decide +kernel), hunits]
    push_cast
    exact mul_div_cancel_right₀ _ hscale
  rw [value?_finite (by decide +kernel), hrat]

end Number.Binary64

open Number.Binary64 (value?_finite toRat_eq toRat_neg_iff exceeds_iff)

def cutSeconds : WithBotTop ℚ → ℚ
  | ⊥ => 0
  | (q : ℚ) => max 0 (min q maxSeconds)
  | ⊤ => maxSeconds

theorem cutSeconds_mono {a b : WithBotTop ℚ} (h : a ≤ b) : cutSeconds a ≤ cutSeconds b := by
  have hhour : (0 : ℚ) ≤ maxSeconds := Nat.cast_nonneg _
  induction a using WithBotTop.rec with
  | bot =>
    induction b using WithBotTop.rec with
    | bot => exact le_rfl
    | coe q => exact le_max_left _ _
    | top => exact hhour
  | coe p =>
    induction b using WithBotTop.rec with
    | bot => exact absurd (le_bot_iff.mp h) (WithBotTop.coe_ne_bot p)
    | coe q => exact max_le_max_left _ (min_le_min_right _ (WithBotTop.coe_le_coe.mp h))
    | top => exact max_le hhour (min_le_right _ _)
  | top =>
    rw [top_le_iff.mp h]

theorem cutSeconds_nonneg (a : WithBotTop ℚ) : 0 ≤ cutSeconds a :=
  cutSeconds_mono bot_le

theorem cutSeconds_le (a : WithBotTop ℚ) : cutSeconds a ≤ maxSeconds :=
  cutSeconds_mono le_top

theorem cutSeconds_within {q : ℚ} (hpos : 0 ≤ q) (hunder : q ≤ maxSeconds) :
    cutSeconds (q : WithBotTop ℚ) = q := by
  change max 0 (min q maxSeconds) = q
  rw [min_eq_left hunder, max_eq_right hpos]

theorem secondsMagnitude_nearest {x : Binary64} (h : x.isBelowZero = false) :
    NearestEven (x.toRat * nanosPerSecond) (secondsMagnitude x) := by
  have hscaled : x.toRat * nanosPerSecond = (x.units * nanosPerSecond : ℕ) / Binary64.scale := by
    rw [toRat_eq h, Nat.cast_mul, div_mul_eq_mul_div]
  rw [hscaled]
  exact roundRatio_nearestEven Binary64.scale_pos _

theorem nearestEven_nothing : NearestEven (0 * nanosPerSecond) 0 := by
  rw [zero_mul]
  exact_mod_cast NearestEven.natCast 0

theorem nearestEven_hour :
    NearestEven (maxSeconds * nanosPerSecond) (maxSeconds * nanosPerSecond : ℕ) := by
  rw [← Nat.cast_mul]
  exact .natCast _

theorem boundedNanos_finite {x : Binary64} (hnumber : x.isNaN = false)
    (hfinite : x.isFinite = true) :
    NearestEven (max 0 (min x.toRat maxSeconds) * nanosPerSecond) (boundedNanos x) := by
  cases hsign : x.isBelowZero with
  | true =>
    have hneg : x.isNegative = true := (Bool.and_eq_true_iff.mp hsign).1
    have hcut : max 0 (min x.toRat maxSeconds) = 0 :=
      max_eq_left ((min_le_left _ _).trans ((toRat_neg_iff x).mpr hsign).le)
    rw [hcut]
    simpa [boundedNanos, hneg] using nearestEven_nothing
  | false =>
    have hpos : 0 ≤ x.toRat := Binary64.toRat_nonneg hsign
    cases hlong : x.exceeds maxSeconds with
    | true =>
      have hover : (maxSeconds : ℚ) < x.toRat := (exceeds_iff hsign maxSeconds).mp hlong
      have hneg : x.isNegative = false :=
        Binary64.isNegative_of_pos ((Nat.cast_nonneg _).trans_lt hover)
      rw [min_eq_right hover.le, max_eq_right (Nat.cast_nonneg _)]
      simpa [boundedNanos, hnumber, hneg, hlong] using nearestEven_hour
    | false =>
      have hunder : x.toRat ≤ maxSeconds := by
        rw [← not_lt, ← exceeds_iff hsign, hlong]
        decide
      have hok : checkSeconds x = .ok () :=
        (checkSeconds_eq_ok_iff x).mpr ⟨hfinite, hsign, hlong⟩
      rw [min_eq_left hunder, max_eq_right hpos, boundedNanos_eq hok]
      exact secondsMagnitude_nearest hsign

/-- What every duration is, whether or not its number of seconds is acceptable. -/
theorem boundedNanos_nearest {x : Binary64} {a : WithBotTop ℚ} (h : x.value? = some a) :
    NearestEven (cutSeconds a * nanosPerSecond) (boundedNanos x) := by
  obtain ⟨hnumber, ⟨hinf, rfl⟩ | ⟨hfinite, rfl⟩⟩ := Binary64.value?_cases h
  · cases hneg : x.isNegative with
    | true => simpa [boundedNanos, hneg, cutSeconds] using nearestEven_nothing
    | false => simpa [boundedNanos, hnumber, hneg, hinf, cutSeconds] using nearestEven_hour
  · exact boundedNanos_finite hnumber hfinite

/-! ## Conversion that may fail -/

theorem checkSeconds_iff (x : Binary64) : checkSeconds x = .ok () ↔
    ∃ q : ℚ, x.value? = some (q : WithBotTop ℚ) ∧ 0 ≤ q ∧ q ≤ maxSeconds := by
  rw [checkSeconds_eq_ok_iff]
  constructor
  · rintro ⟨hfinite, hsign, hlong⟩
    refine ⟨x.toRat, value?_finite hfinite, Binary64.toRat_nonneg hsign, ?_⟩
    rw [← not_lt, ← exceeds_iff hsign, hlong]
    decide
  · rintro ⟨q, hq, hpos, hunder⟩
    obtain ⟨-, ⟨-, hend⟩ | ⟨hfinite, hrat⟩⟩ := Binary64.value?_cases hq
    · cases hneg : x.isNegative <;> rw [hneg] at hend <;> cases hend
    · obtain rfl := WithBotTop.coe_injective hrat
      have hsign : x.isBelowZero = false := by
        rw [← Bool.not_eq_true, ← toRat_neg_iff]
        exact not_lt.mpr hpos
      refine ⟨hfinite, hsign, ?_⟩
      rw [← Bool.not_eq_true, exceeds_iff hsign]
      exact not_lt.mpr hunder

theorem nanosOfSeconds?_cases {x : Binary64} {nanos : Nat} (h : nanosOfSeconds? x = some nanos) :
    x.isBelowZero = false ∧ nanos = secondsMagnitude x := by
  unfold nanosOfSeconds? at h
  split at h
  case isFalse => cases h
  case isTrue hsound =>
    simp only [Bool.and_eq_true, Bool.not_eq_true'] at hsound
    dsimp only at h
    split at h
    · exact ⟨hsound.2, (Option.some.inj h).symm⟩
    · cases h

theorem nanosOfSeconds?_checked {x : Binary64} (h : checkSeconds x = .ok ()) :
    nanosOfSeconds? x = some (boundedNanos x) := by
  obtain ⟨hfinite, hsign, -⟩ := (checkSeconds_eq_ok_iff x).mp h
  have hfits : secondsMagnitude x ≤ longestDuration := by
    rw [← boundedNanos_eq h]
    exact (boundedNanos_le x).trans (by decide +kernel)
  simp [nanosOfSeconds?, hfinite, hsign, hfits, boundedNanos_eq h]

theorem clamp_value {x : Binary64} {a : WithBotTop ℚ} (ha : x.value? = some a) :
    (x.clamp .zero (.ofNat maxSeconds)).value? = some (cutSeconds a : WithBotTop ℚ) := by
  have hhour : (0 : ℚ) ≤ maxSeconds := Nat.cast_nonneg _
  have hlow := Binary64.lessThan_iff ha Binary64.value?_zero
  have hhigh := Binary64.lessThan_iff Binary64.value?_hour ha
  unfold Binary64.clamp
  by_cases hbelow : a < ((0 : ℚ) : WithBotTop ℚ)
  · have hcut : cutSeconds a = 0 :=
      le_antisymm ((cutSeconds_mono hbelow.le).trans (cutSeconds_within le_rfl hhour).le)
        (cutSeconds_nonneg a)
    have hzero : (Binary64.ofNat maxSeconds).lessThan .zero = false := by
      rw [← Bool.not_eq_true, Binary64.lessThan_iff Binary64.value?_hour Binary64.value?_zero]
      exact not_lt.mpr (WithBotTop.coe_le_coe.mpr hhour)
    simp only [hlow.mpr hbelow, if_true, hzero, Bool.false_eq_true, if_false, hcut]
    exact Binary64.value?_zero
  · have hkept : x.lessThan .zero = false := Bool.eq_false_iff.mpr (mt hlow.mp hbelow)
    by_cases habove : ((maxSeconds : ℚ) : WithBotTop ℚ) < a
    · have hcut : cutSeconds a = maxSeconds :=
        le_antisymm (cutSeconds_le a)
          ((cutSeconds_within hhour le_rfl).ge.trans (cutSeconds_mono habove.le))
      simp only [hkept, Bool.false_eq_true, if_false, hhigh.mpr habove, if_true, hcut]
      exact Binary64.value?_hour
    · have hkept' : (Binary64.ofNat maxSeconds).lessThan x = false :=
        Bool.eq_false_iff.mpr (mt hhigh.mp habove)
      simp only [hkept, hkept', Bool.false_eq_true, if_false, ha, Option.some.injEq]
      induction a using WithBotTop.rec with
      | bot => exact absurd (WithBot.bot_lt_coe _) hbelow
      | coe q =>
        rw [cutSeconds_within (WithBotTop.coe_le_coe.mp (not_lt.mp hbelow))
          (WithBotTop.coe_le_coe.mp (not_lt.mp habove))]
      | top => exact absurd (WithBot.coe_lt_coe.mpr (WithTop.coe_lt_top _)) habove

def cutAndConvert? (x : Binary64) : Option Nat :=
  if x.isNaN then some 0 else nanosOfSeconds? (x.clamp .zero (.ofNat maxSeconds))

/-- What has been cut to the bounds is within them, so it is always converted. -/
theorem cutAndConvert?_eq (x : Binary64) : cutAndConvert? x = some (boundedNanos x) := by
  cases hnan : x.isNaN with
  | true => simp [cutAndConvert?, boundedNanos, hnan]
  | false =>
    obtain ⟨a, ha⟩ : ∃ a, x.value? = some a := by
      simp only [Binary64.value?, hnan]
      cases x.isInfinite <;> simp
    have hvalue := clamp_value ha
    have hpos := cutSeconds_nonneg a
    have hunder := cutSeconds_le a
    have hchecked : checkSeconds (x.clamp .zero (.ofNat maxSeconds)) = .ok () :=
      (checkSeconds_iff _).mpr ⟨_, hvalue, hpos, hunder⟩
    have hnearest := boundedNanos_nearest hvalue
    rw [cutSeconds_within hpos hunder, (boundedNanos_nearest ha).eq_iff] at hnearest
    rw [cutAndConvert?, hnan, if_neg Bool.false_ne_true, nanosOfSeconds?_checked hchecked, hnearest]

/-! ## Settings and spoken durations -/

namespace Policy

def Config.durations (c : Config) : List (Binary64 × Nat) :=
  [(c.minInterruptionDuration, c.minDuration), (c.falseInterruptionTimeout, c.resumeTimeout),
    (c.ackSuppressionWindow, c.ackWindow)]

theorem Config.durations_bounded {c : Config} {setting : Binary64 × Nat}
    (h : setting ∈ c.durations) : setting.2 = boundedNanos setting.1 := by
  simp only [durations, List.mem_cons, List.not_mem_nil, or_false] at h
  rcases h with rfl | rfl | rfl <;> rfl

/-- Every setting that is a number of seconds has a duration, which is at most an hour, grows with
the number and is the nearest number of nanoseconds if the setting is acceptable. Speech of no
fewer seconds than the settings ask for is long enough after rounding too. -/
theorem seconds_rounded (c : Config) :
    (∀ setting ∈ c.durations, cutAndConvert? setting.1 = some setting.2 ∧
      setting.2 ≤ 3600 * 10 ^ 9 ∧
      (checkSeconds setting.1 = .ok () → setting.1.isFinite = true ∧
        ∀ nanos, NearestEven (setting.1.toRat * 10 ^ 9) nanos ↔ nanos = setting.2)) ∧
    (∀ other : Config, ∀ setting ∈ c.durations, ∀ greater ∈ other.durations, ∀ a b,
      setting.1.value? = some a → greater.1.value? = some b → a ≤ b → setting.2 ≤ greater.2) ∧
    (c.validate = .ok () → ∀ text isFinal seconds wordCount language now nanos f,
      nanosOfSeconds? seconds = some nanos →
      c.minInterruptionDuration.toRat ≤ seconds.toRat →
      (Replay.Event.transcript text isFinal (some seconds) wordCount language).frame now =
        some (.transcript f) →
      c.minDuration ≤ f.spoken) := by
  have hnanos : (nanosPerSecond : ℚ) = 10 ^ 9 := by norm_num [nanosPerSecond]
  refine ⟨?_, ?_, ?_⟩
  · intro setting hmem
    rw [Config.durations_bounded hmem]
    refine ⟨cutAndConvert?_eq _, boundedNanos_le _, fun hchecked => ?_⟩
    obtain ⟨hfinite, hsign, -⟩ := (checkSeconds_eq_ok_iff _).mp hchecked
    rw [boundedNanos_eq hchecked, ← hnanos]
    exact ⟨hfinite, fun nanos => (secondsMagnitude_nearest hsign).eq_iff nanos⟩
  · intro other setting hmem greater hmem' a b ha hb hab
    rw [Config.durations_bounded hmem, Config.durations_bounded hmem']
    refine (boundedNanos_nearest ha).mono (boundedNanos_nearest hb) ?_
    exact mul_le_mul_of_nonneg_right (cutSeconds_mono hab) (Nat.cast_nonneg _)
  · intro hvalid text isFinal seconds wordCount language now nanos f hconverted hle hframe
    obtain ⟨hchecked, -⟩ := (Config.validate_eq_ok_iff c).mp hvalid
    obtain ⟨-, hsign, -⟩ := (checkSeconds_eq_ok_iff _).mp hchecked
    obtain ⟨hsign', hnearest⟩ := nanosOfSeconds?_cases hconverted
    have hspoken : c.minDuration ≤ nanos := by
      rw [hnearest, Config.minDuration, boundedNanos_eq hchecked]
      exact (secondsMagnitude_nearest hsign).mono (secondsMagnitude_nearest hsign')
        (mul_le_mul_of_nonneg_right hle (Nat.cast_nonneg _))
    obtain rfl := Frame.transcript.inj (Option.some.inj hframe)
    change c.minDuration ≤ (nanosOfSeconds? seconds).getD 0
    rw [hconverted]
    exact hspoken

/-- Of two ties one is rounded down and the other up. An endless window lasts an hour, and speech
of just the least duration is long enough. -/
theorem seconds_rounded_ties :
    let c : Config := { minInterruptionDuration := .ofRatio 1 1024,
                        falseInterruptionTimeout := .ofRatio 3 1024 }
    let endless : Config := { c with ackSuppressionWindow := .infinity }
    let answer : Fragment := { text := "no", receivedAt := ⟨5⟩, duration := some 976562 }
    NearestEven (c.minInterruptionDuration.toRat * 10 ^ 9) 976562 ∧
      NearestEven (c.falseInterruptionTimeout.toRat * 10 ^ 9) 2929688 ∧
      c.resumeTimeout ≤ endless.ackWindow ∧ endless.ackWindow = 3600 * 10 ^ 9 ∧
      c.minDuration ≤ answer.spoken := by
  intro c endless answer
  have hvalid : c.validate = .ok () := by decide +kernel
  have hchecked := (Config.validate_eq_ok_iff c).mp hvalid
  have hleast : 976562 = c.minDuration := by decide +kernel
  have htimeout : 2929688 = c.resumeTimeout := by decide +kernel
  have hshort := value?_finite (show c.falseInterruptionTimeout.isFinite = true by decide +kernel)
  have hended : Binary64.infinity.value? = some ⊤ := by
    rw [Binary64.value?, if_neg (by decide +kernel), if_pos (by decide +kernel),
      if_neg (by decide +kernel)]
  have hleastIn : (c.minInterruptionDuration, c.minDuration) ∈ c.durations :=
    List.mem_cons_self
  have htimeoutIn : (c.falseInterruptionTimeout, c.resumeTimeout) ∈ c.durations :=
    List.mem_cons_of_mem _ List.mem_cons_self
  have hendlessIn : (Binary64.infinity, endless.ackWindow) ∈ endless.durations :=
    List.mem_cons_of_mem _ (List.mem_cons_of_mem _ List.mem_cons_self)
  obtain ⟨hbounded, hordered, hlong⟩ := seconds_rounded c
  obtain ⟨-, -, hdown⟩ := hbounded _ hleastIn
  obtain ⟨-, -, hup⟩ := hbounded _ htimeoutIn
  have hlonger := hordered endless _ htimeoutIn _ hendlessIn
  dsimp only at hdown hup hlonger
  refine ⟨?_, ?_, ?_, by decide +kernel, ?_⟩
  · exact ((hdown hchecked.1).2 _).mpr hleast
  · exact ((hup hchecked.2.2.1).2 _).mpr htimeout
  · exact hlonger _ _ hshort hended le_top
  · exact hlong hvalid "no" true (.ofRatio 1 1024) none none ⟨5⟩ 976562 answer
      (by decide +kernel) le_rfl (by decide +kernel)

end Policy

end BargeIn
