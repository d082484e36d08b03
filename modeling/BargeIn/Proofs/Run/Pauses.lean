import Mathlib.Control.Monad.Basic
import BargeIn.Proofs.Pipeline.Stages
import BargeIn.Proofs.Run.Deeds

/-!
# Pauses

When all tasks have come to rest, every alarm lies ahead, so each alarm that rings in a pause moves
the clock, and a pause has milliseconds enough for all of them. A pause that is made in two parts
rings the same alarms in the same order, also if one of them is due where the parts meet.
-/

set_option autoImplicit false

namespace BargeIn.Pipeline

namespace Run

variable {σ ω : Type}

/-! ## Alarms at rest -/

def Timely (r : Run σ ω) : Prop := ∀ a ∈ r.alarms, r.now < a.1 ∨ a.2 ∈ r.ready

/-- All tasks have come to rest, and every alarm lies ahead. -/
structure Idle (r : Run σ ω) : Prop where
  ready : r.ready = []
  ahead : ∀ a ∈ r.alarms, r.now < a.1

theorem Idle.timely {r : Run σ ω} (h : r.Idle) : r.Timely :=
  fun a ha => .inl (h.ahead a ha)

namespace Timely

variable {r : Run σ ω}

theorem aside (h : r.Timely) {ready : List Nat} (hready : ∀ i ∈ r.ready, i ∈ ready) :
    { r with ready }.Timely :=
  fun a ha => (h a ha).imp_right (hready a.2)

theorem roused (h : r.Timely) (woken : List Nat) : (r.roused woken).Timely :=
  h.aside fun _ hi => List.mem_append_left woken hi

theorem post (h : r.Timely) (f : Frame) : (r.post f).Timely := by
  rcases r.post_eq f with ⟨hentry, hpost⟩ | ⟨_, hpost⟩
  · obtain ⟨s, hs, _⟩ := entry_accepted_iff.mp hentry
    obtain ⟨woken, hposted⟩ := posted_eq hs f
    rw [hpost, hposted]
    exact h.roused woken
  · rwa [hpost]

end Timely

theorem alarms_after {r : Run σ ω} {ms : Nat} (h : ∀ t ∈ r.nextAlarm, ms < t) :
    ∀ a ∈ r.alarms, ms < a.1 := by
  intro a ha
  have hmem : a.1 ∈ r.alarms.map (·.1) := List.mem_map_of_mem ha
  obtain ⟨t, ht⟩ : ∃ t, r.nextAlarm = some t :=
    Option.isSome_iff_exists.mp (List.isSome_min?_of_mem hmem)
  have hleast := (List.min?_eq_some_iff.mp ht).2 a.1 hmem
  have := h t ht
  omega

theorem Idle.next_cases {r : Run σ ω} (h : r.Idle) (ms : Nat) :
    (∀ t ∈ r.nextAlarm, ms < t) ∨ ∃ t, r.nextAlarm = some t ∧ r.now < t ∧ t ≤ ms := by
  cases hn : r.nextAlarm with
  | none => exact .inl (by simp)
  | some t =>
    obtain ⟨a, ha, rfl⟩ := List.mem_map.mp (List.min?_mem hn)
    by_cases hle : a.1 ≤ ms
    · exact .inr ⟨a.1, rfl, h.ahead a ha, hle⟩
    · refine .inl fun t ht => ?_
      obtain rfl : a.1 = t := Option.some.inj ht
      exact Nat.not_le.mp hle

def clocked (r : Run σ ω) (ms : Nat) : Run σ ω := { r with now := ms }

theorem wake_clocked (r : Run σ ω) (ms i : Nat) :
    (r.clocked ms).wake i = (r.wake i).clocked ms := by
  unfold wake
  change (if r.ready.contains i then _ else _) = _
  split <;> rfl

theorem wakeAll_clocked (r : Run σ ω) (ms : Nat) (alarms : List (Nat × Nat)) :
    alarms.foldl (fun r alarm => r.wake alarm.2) (r.clocked ms) =
      (alarms.foldl (fun r alarm => r.wake alarm.2) r).clocked ms := by
  induction alarms generalizing r with
  | nil => rfl
  | cons a alarms ih => rw [List.foldl_cons, wake_clocked, ih, List.foldl_cons]

theorem rung_late {r : Run σ ω} {ms : Nat} (h : ∀ a ∈ r.alarms, ms < a.1) :
    r.rung ms = r.clocked ms := by
  have hnone : r.alarms.filter (·.1 ≤ ms) = [] := by
    simpa [List.filter_eq_nil_iff] using h
  simp only [rung, hnone, List.foldl_nil]
  rfl

variable [Processor σ ω]

theorem ring_clocked (r : Run σ ω) (now ms : Nat) : (r.clocked now).ring ms = r.ring ms := by
  let due := r.alarms.filter (·.1 ≤ ms)
  calc (r.clocked now).ring ms
      = ((due.foldl (fun r alarm => r.wake alarm.2) (r.clocked now)).clocked ms).settle := rfl
    _ = r.ring ms := by
      rw [wakeAll_clocked]
      rfl

theorem Timely.step {r r' : Run σ ω} (h : r.Timely) (hstep : r.step = some r') : r'.Timely := by
  obtain ⟨i, rest, hr, hcases⟩ := step_cases hstep
  -- The alarm of the task whose turn it is has been dropped; any other task keeps its turn.
  have hlater : ∀ a ∈ (r.hushed i).alarms, r.now < a.1 ∨ a.2 ∈ rest := by
    intro a ha
    obtain ⟨ha, hne⟩ := List.mem_filter.mp ha
    refine (h a ha).imp_right fun hmem => ?_
    rw [hr] at hmem
    exact (List.mem_cons.mp hmem).resolve_left (by simpa using hne)
  rcases hcases with ⟨_, rfl⟩ | ⟨s, v, goesOn, _, hm, rfl⟩
  · exact hlater
  · have hleaves := hm.leaves
    obtain ⟨woken, hwoken⟩ := hleaves.turns
    have hready : v.ready = i :: (rest ++ woken) := hwoken.trans (congrArg (· ++ woken) hr)
    have hnow : (v.passed goesOn).now = r.now := by cases goesOn <;> exact hleaves.now
    have halarms : (v.passed goesOn).alarms = v.alarms := by cases goesOn <;> rfl
    have hturn : ∀ j ∈ rest, j ∈ (v.passed goesOn).ready := by
      intro j hj
      cases goesOn <;> simp [passed, hready, hj]
    intro a ha
    rw [halarms] at ha
    rw [hnow]
    rcases hleaves.alarms a ha with ha | hahead
    · exact (hlater a ha).imp_right (hturn a.2)
    · exact .inl hahead

variable [Tame σ]

theorem Timely.settle {r : Run σ ω} (h : r.Timely) : r.settle.Idle := by
  have hready := settle_ready r
  have htimely : r.settle.Timely := settle_keeps (fun _ _ h hstep => h.step hstep) h
  refine ⟨hready, fun a ha => (htimely a ha).resolve_right ?_⟩
  rw [hready]
  exact List.not_mem_nil

theorem start_idle (chain : Chain σ ω) (conversation : Conversation) (capacity : Nat) :
    (start chain conversation capacity).Idle :=
  Timely.settle fun _ ha => absurd ha List.not_mem_nil

theorem ring_idle (r : Run σ ω) (ms : Nat) : (r.ring ms).Idle := by
  obtain ⟨woken, hring, hawake⟩ := r.ring_eq ms
  rw [hring]
  apply Timely.settle
  intro a ha
  by_cases hle : a.1 ≤ ms
  · exact .inr (hawake a ha hle)
  · exact .inl (Nat.not_le.mp hle)

namespace Idle

variable {r : Run σ ω}

theorem passUntil (h : r.Idle) {target k : Nat} (hk : target ≤ r.now + k) :
    (passUntil target k r).Idle := by
  induction k generalizing r with
  | zero =>
    refine ⟨h.ready, fun a ha => ?_⟩
    have := h.ahead a ha
    show target < a.1
    omega
  | succ k ih =>
    rcases h.next_cases target with hlate | ⟨t, hn, hlt, hle⟩
    · rw [passUntil_idle hlate]
      exact ⟨h.ready, alarms_after hlate⟩
    · have hnow := r.ring_now t
      rw [passUntil_ring hn hle]
      exact ih (r.ring_idle t) (by omega)

theorem passUntil_enough (h : r.Idle) {target k n : Nat} (hk : target ≤ r.now + k)
    (hn : target ≤ r.now + n) : Run.passUntil target k r = Run.passUntil target n r := by
  induction k generalizing r n with
  | zero =>
    have hlate : ∀ t ∈ r.nextAlarm, target < t := by
      rcases h.next_cases target with hlate | ⟨t, _, hlt, hle⟩
      · exact hlate
      · omega
    rw [passUntil_idle hlate, passUntil_idle hlate]
  | succ k ih =>
    rcases h.next_cases target with hlate | ⟨t, ht, hlt, hle⟩
    · rw [passUntil_idle hlate, passUntil_idle hlate]
    · obtain ⟨n, rfl⟩ : ∃ m, n = m + 1 := Nat.exists_eq_succ_of_ne_zero (by omega)
      have hnow := r.ring_now t
      rw [passUntil_ring ht hle, passUntil_ring ht hle]
      exact ih (r.ring_idle t) (by omega) (by omega)

/-- As long as no alarm rings, it does not matter that the clock has moved. -/
theorem passUntil_later (h : r.Idle) {mid target l n : Nat}
    (hlate : ∀ t ∈ r.nextAlarm, mid < t) (hl : target ≤ mid + l) (hn : target ≤ r.now + n) :
    Run.passUntil target l (r.clocked mid) = Run.passUntil target n r := by
  have hnext : (r.clocked mid).nextAlarm = r.nextAlarm := rfl
  rcases h.next_cases target with hlast | ⟨t, ht, hlt, hle⟩
  · rw [passUntil_idle (hnext ▸ hlast), passUntil_idle hlast]
    rfl
  · have hmid := hlate t ht
    obtain ⟨l, rfl⟩ : ∃ m, l = m + 1 := Nat.exists_eq_succ_of_ne_zero (by omega)
    obtain ⟨n, rfl⟩ : ∃ m, n = m + 1 := Nat.exists_eq_succ_of_ne_zero (by omega)
    have hnow := r.ring_now t
    have hleft : target ≤ (r.ring t).now + l ∧ target ≤ (r.ring t).now + n := by omega
    rw [passUntil_ring (hnext ▸ ht) hle, passUntil_ring ht hle, ring_clocked]
    exact (r.ring_idle t).passUntil_enough hleft.1 hleft.2

theorem passUntil_passUntil (h : r.Idle) {mid target k l n : Nat} (hmid : mid ≤ target)
    (hk : mid ≤ r.now + k) (hl : target ≤ mid + l) (hn : target ≤ r.now + n) :
    Run.passUntil target l (Run.passUntil mid k r) = Run.passUntil target n r := by
  -- Induction on the alarms that ring up to `mid`: each leaves the run idle and moves the clock.
  induction k generalizing r n with
  | zero =>
    apply h.passUntil_later _ hl hn
    rcases h.next_cases mid with hlate | ⟨t, _, hlt, hle⟩
    · exact hlate
    · omega
  | succ k ih =>
    rcases h.next_cases mid with hlate | ⟨t, ht, hlt, hle⟩
    · rw [passUntil_idle hlate]
      exact h.passUntil_later hlate hl hn
    · obtain ⟨n, rfl⟩ : ∃ m, n = m + 1 := Nat.exists_eq_succ_of_ne_zero (by omega)
      have hnow := r.ring_now t
      rw [passUntil_ring ht hle, passUntil_ring ht (Nat.le_trans hle hmid)]
      exact ih (r.ring_idle t) (by omega) (by omega)

end Idle

namespace Timely

variable {r : Run σ ω}

theorem sleep (h : r.Timely) (ms : Nat) : (r.sleep ms).Idle := by
  have hnow := r.settle_now
  exact h.settle.passUntil (by omega)

theorem sleep_add (h : r.Timely) (a b : Nat) : r.sleep (a + b) = (r.sleep a).sleep b := by
  have hnow := r.sleep_now a
  have hfirst := r.settle_now
  have hsplit : Run.passUntil (r.now + a + b) b (r.sleep a) =
      Run.passUntil (r.now + a + b) (a + b) r.settle :=
    h.settle.passUntil_passUntil (by omega) (by omega) (by omega) (by omega)
  calc r.sleep (a + b)
      = Run.passUntil (r.now + a + b) (a + b) r.settle := by rw [Run.sleep, Nat.add_assoc]
    _ = Run.passUntil (r.now + a + b) b (r.sleep a) := hsplit.symm
    _ = Run.passUntil ((r.sleep a).now + b) b (r.sleep a).settle := by
      rw [hnow, settle_idle (h.sleep a).ready]
    _ = (r.sleep a).sleep b := rfl

/-! ## What is done to a run -/

theorem deed (h : r.Timely) (d : Deed) : (r.deed d).Timely := by
  cases d with
  | send f => exact (h.post f).settle.timely
  | pause ms => exact (h.sleep ms).timely
  | post f => exact h.post f
  | turn =>
    show r.turn.Timely
    rcases r.turn_cases with hturn | ⟨_, hturn⟩
    · exact h.step hturn
    · rwa [hturn]
  | defer =>
    obtain ⟨ready, hdefer, hready⟩ := r.defer_eq
    show r.defer.Timely
    rw [hdefer]
    exact h.aside hready
  | read frames =>
    obtain ⟨woken, hread⟩ := r.read_eq frames
    show (r.read frames).Timely
    rw [hread]
    exact h.roused woken
  | closeOutput =>
    obtain ⟨woken, hclosed⟩ := r.closeOutput_eq
    show r.closeOutput.Timely
    rw [hclosed]
    exact h.roused woken
  | closeInput =>
    obtain ⟨woken, hclosed⟩ := r.closeInput_eq
    show r.closeInput.Timely
    rw [hclosed]
    exact h.roused woken

theorem perform (h : r.Timely) (deeds : List Deed) : (r.perform deeds).Timely := by
  induction deeds generalizing r with
  | nil => exact h
  | cons d deeds ih => exact ih (h.deed d)

end Timely

/-- A frame that is sent and a pause leave all tasks at rest, whatever was done before. -/
theorem Idle.perform {r : Run σ ω} (h : r.Idle) {deeds : List Deed}
    (hlast : ∀ d ∈ deeds.getLast?, d.isPaced = true) : (r.perform deeds).Idle := by
  rcases List.eq_nil_or_concat deeds with rfl | ⟨before, d, rfl⟩
  · exact h
  · have hd : d.isPaced = true := hlast d (by simp)
    have hbefore := h.timely.perform before
    rw [List.concat_eq_append, perform_append]
    cases d with
    | send f => exact (hbefore.post f).settle
    | pause ms => exact hbefore.sleep ms
    | _ => cases hd

end Run

variable {σ ω : Type} [Processor σ ω]

/-- It makes no difference to a run whether a pause is made at once or in two parts: the frames
that come out and their times, the answers to what is sent and all stages are the same from then
on, whatever was done before and is done after. -/
theorem pause_divides (htame : Tame σ) (chain : Chain σ ω) (conversation : Conversation)
    (capacity : Nat) (before after : List Deed) (a b : Nat) :
    let r := Run.start chain conversation capacity
    let once := before ++ .pause (a + b) :: after
    let twice := before ++ .pause a :: .pause b :: after
    r.perform once = r.perform twice ∧ r.answers once = r.answers twice := by
  intro r once twice
  have htimely : (r.perform before).Timely :=
    (Run.start_idle chain conversation capacity).timely.perform before
  have hpause := htimely.sleep_add a b
  constructor
  · rw [Run.perform_append, Run.perform_append]
    exact congrArg (Run.perform · after) hpause
  · rw [Run.answers_append, Run.answers_append]
    exact congrArg (_ ++ Run.answers · after) hpause

/-- Three deadlines are reached where the two parts of the pause meet. -/
theorem pause_divides_at_deadlines :
    let policy : Policy :=
      ⟨{ acknowledgments := ["got it"] }, .umAndStop, by decide +kernel⟩
    let bell : Rule := { name := "bell", reaction := fun _ => .keep, alarmAfter := some 2000 }
    let broken : Rule := { bell with name := "broken", alarmFails := true }
    let chain : Chain Stage Shared := ⟨"ringing",
      [.rule bell, .handler (.ofPolicy policy 0), .rule broken, .filter], .ofPolicy policy⟩
    let r := Run.start chain {} 1
    let filler : Frame := .transcript { text := "Um", receivedAt := ⟨0⟩ }
    let before : List Deed := [.post (.utteranceStarted ⟨0⟩), .turn, .defer, .send filler]
    let after : List Deed := [.send (.agentSpeech "So"), .closeOutput, .send .endOfStream, .pause 5,
      .send .resume, .closeInput]
    let once := before ++ .pause (2000 + 1) :: after
    let twice := before ++ .pause 2000 :: .pause 1 :: after
    Tame Stage ∧ r.perform once = r.perform twice ∧ r.answers once = r.answers twice ∧
      (r.perform twice).output =
        [(0, .utteranceStarted ⟨0⟩), (0, .awaitingConfirmation ⟨2000000000⟩), (0, filler),
          (2000, .resume), (2000, .error "broken" "Invalid configuration for broken: timer" true),
          (2000, .interrupt .timeout none), (2001, .agentSpeech "So")] := by
  intro policy bell broken chain r filler before after once twice
  obtain ⟨hruns, hanswers⟩ := pause_divides inferInstance chain {} 1 before after 2000 1
  exact ⟨inferInstance, hruns, hanswers, by decide +kernel⟩

end BargeIn.Pipeline
