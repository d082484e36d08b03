import BargeIn.Proofs.Run.Moves

/-!
# All tasks come to rest

Every move of a task uses up some of the work that the tasks have before them, provided that calls
emit no more than their stage may and that a served deadline is not due again. So the moves that
a run allows for are enough, and a settled run has no task left that can go on. What each move
keeps is kept when a run settles.
-/

set_option autoImplicit false

namespace BargeIn

theorem Instant.tick_le_iff (d : Instant) (ms : Nat) : d.tick ≤ ms ↔ d ≤ .ofMillis ms := by
  have hle : d ≤ .ofMillis ms ↔ d.nanos ≤ ms * 1000000 := Iff.rfl
  rw [hle, Instant.tick]
  omega

theorem Instant.not_tick_le_iff (d : Instant) (ms : Nat) : ¬d.tick ≤ ms ↔ .ofMillis ms < d := by
  rw [tick_le_iff]
  exact Int.not_le

namespace Pipeline

/-- Calls emit no more than the stage may, and a served deadline is not due again. -/
class Tame (σ : Type) {ω : Type} [Processor σ ω] : Prop where
  process_few : ∀ (s : σ) (w : ω) (c : Conversation) (now : Instant) (f : Frame) (out : List Frame),
    (Processor.process s w c now f).result = .ok out → out.length ≤ Processor.spread σ
  expire_few : ∀ (s : σ) (w : ω) (c : Conversation) (now : Instant) (out : List Frame),
    (Processor.expire s w c now).result = .ok out → out.length ≤ Processor.spread σ
  expire_served : ∀ (s : σ) (w : ω) (c : Conversation) (now : Instant),
    ∀ d ∈ Processor.deadline (Processor.expire s w c now).stage, now < d

namespace Run

variable {σ ω : Type} [Processor σ ω]

/-! ## Steps -/

def hushed (r : Run σ ω) (i : Nat) : Run σ ω :=
  { r with alarms := r.alarms.filter (·.2 != i) }

def passed (r : Run σ ω) (goesOn : Bool) : Run σ ω :=
  if goesOn then r else { r with ready := r.ready.drop 1 }

theorem step_eq_none_iff (r : Run σ ω) : r.step = none ↔ r.ready = [] := by
  unfold step
  cases r.ready with
  | nil => simp
  | cons i rest =>
    simp only [reduceCtorEq, iff_false]
    split
    · simp
    · split <;> simp

theorem step_eq {r : Run σ ω} {i : Nat} {rest : List Nat} {s : Station σ}
    (hr : r.ready = i :: rest) (hs : r.stations[i]? = some s) :
    r.step = some (((r.hushed i).move i s).1.passed ((r.hushed i).move i s).2) := by
  unfold step
  split
  case h_1 h => simp [hr] at h
  case h_2 j later h =>
    obtain ⟨rfl, rfl⟩ : j = i ∧ later = rest := by simpa [hr] using h.symm
    have hhushed : ({ r with alarms := r.alarms.filter (·.2 != j) } : Run σ ω) = r.hushed j := rfl
    simp only [hs, hhushed]
    rcases (r.hushed j).move j s with ⟨v, _ | _⟩ <;> rfl

theorem step_cases {r r' : Run σ ω} (h : r.step = some r') :
    ∃ i rest, r.ready = i :: rest ∧
      (r.stations[i]? = none ∧ r' = { r.hushed i with ready := rest } ∨
        ∃ s v goesOn, r.stations[i]? = some s ∧ Moves (r.hushed i) i s v goesOn ∧
          r' = v.passed goesOn) := by
  cases hr : r.ready with
  | nil => simp [(r.step_eq_none_iff).mpr hr] at h
  | cons i rest =>
    refine ⟨i, rest, rfl, ?_⟩
    cases hs : r.stations[i]? with
    | none =>
      simp only [step, hr, hs, Option.some.injEq] at h
      exact .inl ⟨rfl, h.symm.trans (by simp [hushed])⟩
    | some s =>
      rw [step_eq hr hs] at h
      exact .inr ⟨s, _, _, rfl, (r.hushed i).move_moves i s, (Option.some.inj h).symm⟩

theorem step_length {r r' : Run σ ω} (h : r.step = some r') :
    r'.stations.length = r.stations.length := by
  obtain ⟨i, rest, hr, ⟨hn, rfl⟩ | ⟨s, v, goesOn, hs, hm, rfl⟩⟩ := step_cases h
  · rfl
  · have hlength := hm.leaves.length
    cases goesOn <;> exact hlength

theorem settleFor_keeps {P : Run σ ω → Prop} (hstep : ∀ r r', P r → r.step = some r' → P r')
    (fuel : Nat) (r : Run σ ω) (h : P r) : P (settleFor fuel r) := by
  induction fuel generalizing r with
  | zero => exact h
  | succ fuel ih =>
    unfold settleFor
    cases hr : r.step with
    | none => exact h
    | some next => exact ih next (hstep r next h hr)

theorem settle_keeps {P : Run σ ω → Prop} (hstep : ∀ r r', P r → r.step = some r' → P r')
    {r : Run σ ω} (h : P r) : P r.settle :=
  settleFor_keeps hstep _ r h

/-! ## The work before a station -/

def delivery (σ : Type) {ω : Type} [Processor σ ω] (next : Nat) : Nat :=
  max (Processor.spread σ) 1 * (next + 2)

def toll (σ : Type) {ω : Type} [Processor σ ω] : Nat → Nat
  | 0 => 0
  | n + 1 => delivery σ (toll σ n) + 2 * (delivery σ (toll σ n) + 3) + 3

def dueLoad (now next : Nat) (stage : σ) : Nat :=
  if (Processor.deadline stage).any (·.tick ≤ now) then delivery σ next + 3 else 0

def taskLoad (σ : Type) {ω : Type} [Processor σ ω] (next : Nat) : Task → Nat
  | .unstarted => delivery σ next + 4
  | .waiting | .stopped => 0
  | .delivering frames atEnd =>
    frames.length * (next + 2) + 1 + if atEnd then delivery σ next + 3 else 0

def burden (now n : Nat) (s : Station σ) : Nat :=
  if s.isStopped then 0
  else 3 + taskLoad σ (toll σ n) s.task + dueLoad now (toll σ n) s.stage +
    s.inbox.length * toll σ (n + 1)

theorem load_eq (now : Nat) (stations : List (Station σ)) :
    (Station.load now stations).2 = toll σ stations.length := by
  induction stations with
  | nil => rfl
  | cons s later ih => simp [Station.load, toll, delivery, ih]

theorem load_cons (now : Nat) (s : Station σ) (later : List (Station σ)) :
    (Station.load now (s :: later)).1 =
      (Station.load now later).1 + burden now later.length s := by
  obtain ⟨stage, conversation, inbox, task⟩ := s
  cases task <;>
    simp [Station.load, burden, taskLoad, dueLoad, toll, delivery, load_eq, Station.isStopped]

theorem load_set (now : Nat) {stations : List (Station σ)} {i : Nat} {s : Station σ}
    (h : stations[i]? = some s) (s' : Station σ) :
    (Station.load now (stations.set i s')).1 + burden now (stations.length - (i + 1)) s =
      (Station.load now stations).1 + burden now (stations.length - (i + 1)) s' := by
  induction stations generalizing i with
  | nil => simp at h
  | cons t later ih =>
    cases i with
    | zero =>
      obtain rfl : t = s := by simpa using h
      simp only [List.set_cons_zero, load_cons, List.length_cons, Nat.add_sub_cancel]
      omega
    | succ i =>
      have hlater := ih (i := i) (by simpa using h)
      have hlen : (t :: later).length - (i + 1 + 1) = later.length - (i + 1) := by
        simp only [List.length_cons]
        omega
      simp only [List.set_cons_succ, load_cons, List.length_set, hlen]
      omega

theorem dueLoad_le (now next : Nat) (stage : σ) :
    dueLoad now next stage ≤ delivery σ next + 3 := by
  unfold dueLoad
  split <;> omega

theorem dueLoad_due {now next : Nat} {stage : σ} {d : Instant}
    (hd : Processor.deadline stage = some d) (hle : d.tick ≤ now) :
    dueLoad now next stage = delivery σ next + 3 :=
  if_pos (by rw [hd, Option.any_some, decide_eq_true hle])

theorem dueLoad_ahead {now next : Nat} {stage : σ}
    (h : ∀ d ∈ Processor.deadline stage, ¬d.tick ≤ now) : dueLoad now next stage = 0 := by
  refine if_neg ?_
  cases hd : Processor.deadline stage with
  | none => exact Bool.false_ne_true
  | some d =>
    rw [Option.any_some, decide_eq_false (h d hd)]
    exact Bool.false_ne_true

theorem emitted_few (s : σ) (result : Except Fault (List Frame))
    (h : ∀ out, result = .ok out → out.length ≤ Processor.spread σ) (next : Nat) :
    (emitted s result).length * (next + 2) ≤ delivery σ next := by
  apply Nat.mul_le_mul_right
  cases result with
  | ok out => exact Nat.le_trans (h out rfl) (Nat.le_max_left _ _)
  | error fault => exact Nat.le_max_right _ _

theorem stopped_dueLoad (r : Run σ ω) (s : Station σ) (atEnd : Bool) (now next : Nat) :
    dueLoad now next (r.stopped s atEnd).stage ≤
      dueLoad now next s.stage + if atEnd then delivery σ next + 3 else 0 := by
  cases atEnd with
  | true =>
    have := dueLoad_le now next (r.stopped s true).stage
    simp only [if_true]
    omega
  | false => exact Nat.le_add_right _ _

/-! ## Moves use up work -/

theorem budget_update (r : Run σ ω) {i : Nat} {s : Station σ} (hs : r.stations[i]? = some s)
    (w : ω) (s' : Station σ) :
    ({ r with world := w }.update i s').budget + burden r.now (r.stations.length - (i + 1)) s =
      r.budget + burden r.now (r.stations.length - (i + 1)) s' := by
  have := load_set r.now hs s'
  simp only [budget, update]
  omega

theorem budget_update_lt (r : Run σ ω) {i k : Nat} {s s' : Station σ} {w : ω}
    (hs : r.stations[i]? = some s)
    (h : k + burden r.now (r.stations.length - (i + 1)) s' <
      burden r.now (r.stations.length - (i + 1)) s) :
    ({ r with world := w }.update i s').budget + k < r.budget := by
  have := r.budget_update hs w s'
  omega

theorem budget_roused (r : Run σ ω) (woken : List Nat) :
    (r.roused woken).budget = r.budget + woken.length := by
  simp only [budget, roused, List.length_append]
  omega

theorem burden_called [Tame σ] (now n : Nat) (s : Station σ) (effect : Effect σ ω)
    (inbox : List Frame) (atEnd : Bool)
    (h : ∀ out, effect.result = .ok out → out.length ≤ Processor.spread σ) :
    burden now n (called s effect inbox atEnd) ≤
      4 + delivery σ (toll σ n) + (if atEnd then delivery σ (toll σ n) + 3 else 0) +
        dueLoad now (toll σ n) effect.stage + inbox.length * toll σ (n + 1) := by
  have := emitted_few s.stage effect.result h (toll σ n)
  simp only [burden, called, Station.isStopped, taskLoad]
  simp
  omega

theorem burden_waiting {now n : Nat} {s : Station σ} (h : s.task = .waiting) :
    burden now n s = 3 + dueLoad now (toll σ n) s.stage + s.inbox.length * toll σ (n + 1) := by
  simp [burden, Station.isStopped, h, taskLoad]

theorem burden_delivering {now n : Nat} {s : Station σ} {frames : List Frame} {atEnd : Bool}
    (h : s.task = .delivering frames atEnd) :
    burden now n s = 3 + (frames.length * (toll σ n + 2) + 1 +
      if atEnd then delivery σ (toll σ n) + 3 else 0) + dueLoad now (toll σ n) s.stage +
        s.inbox.length * toll σ (n + 1) := by
  simp [burden, Station.isStopped, h, taskLoad]

theorem burden_stopped {now n : Nat} {s : Station σ} (h : s.task = .stopped) :
    burden now n s = 0 := by
  simp [burden, Station.isStopped, h]

theorem burden_running (now n : Nat) {s : Station σ} (h : s.isStopped = false) :
    3 ≤ burden now n s := by
  simp only [burden, h]
  simp
  omega

theorem burden_begins {now n : Nat} {s : Station σ} (h : s.task = .unstarted)
    (effect : Effect σ ω Unit) : burden now n (told s effect .waiting) < burden now n s := by
  have hs : burden now n s = 3 + (delivery σ (toll σ n) + 4) + dueLoad now (toll σ n) s.stage +
      s.inbox.length * toll σ (n + 1) := by
    simp [burden, Station.isStopped, h, taskLoad]
  have := dueLoad_le now (toll σ n) effect.stage
  rw [hs, burden_waiting rfl]
  dsimp only [told]
  omega

theorem burden_takes [Tame σ] {now n : Nat} {s : Station σ} {f : Frame} {fs : List Frame}
    (h : s.task = .waiting) (hf : s.inbox = f :: fs) (w : ω) (time : Instant) (atEnd : Bool) :
    1 + burden now n (called s (Processor.process s.stage w s.conversation time f) fs atEnd) <
      burden now n s := by
  have hcalled := burden_called now n s
    (Processor.process s.stage w s.conversation time f) fs atEnd (Tame.process_few _ _ _ _ _)
  have hdue := dueLoad_le now (toll σ n) (Processor.process s.stage w s.conversation time f).stage
  have hend : (if atEnd then delivery σ (toll σ n) + 3 else 0) ≤ delivery σ (toll σ n) + 3 := by
    split <;> omega
  have htoll : toll σ (n + 1) = delivery σ (toll σ n) + 2 * (delivery σ (toll σ n) + 3) + 3 := by
    rw [toll]
  rw [burden_waiting h, hf, List.length_cons, Nat.succ_mul]
  omega

theorem burden_expires [Tame σ] {now n : Nat} {s : Station σ} (h : s.task = .waiting) (w : ω)
    (hd : ∃ d, Processor.deadline s.stage = some d ∧ d.tick ≤ now) :
    burden now n (called s (Processor.expire s.stage w s.conversation (.ofMillis now)) [] false) <
      burden now n s := by
  have hcalled := burden_called now n s
    (Processor.expire s.stage w s.conversation (.ofMillis now)) [] false (Tame.expire_few _ _ _ _)
  have hserved : dueLoad now (toll σ n)
      (Processor.expire s.stage w s.conversation (.ofMillis now)).stage = 0 :=
    dueLoad_ahead fun d hd => (d.not_tick_le_iff now).mpr (Tame.expire_served _ _ _ _ d hd)
  obtain ⟨d, hdeadline, htick⟩ := hd
  rw [burden_waiting h, dueLoad_due hdeadline htick]
  simp only [List.length_nil, Nat.zero_mul, Bool.false_eq_true, if_false] at hcalled
  omega

theorem burden_returns {now n : Nat} {s : Station σ} {atEnd : Bool}
    (h : s.task = .delivering [] atEnd) (r : Run σ ω) :
    burden now n (told s (r.stopped s atEnd) .waiting) < burden now n s := by
  have := r.stopped_dueLoad s atEnd now (toll σ n)
  rw [burden_delivering h, burden_waiting rfl]
  simp only [told, List.length_nil, Nat.zero_mul]
  omega

theorem burden_delivers (now n : Nat) {s : Station σ} {f : Frame} {fs : List Frame} {atEnd : Bool}
    (h : s.task = .delivering (f :: fs) atEnd) :
    burden now n { s with task := .delivering fs atEnd } + (toll σ n + 2) = burden now n s := by
  rw [burden_delivering h, burden_delivering rfl, List.length_cons, Nat.succ_mul]
  dsimp only
  omega

theorem burden_receives {now n : Nat} {s : Station σ} (h : s.isStopped = false) (f : Frame) :
    burden now n { s with inbox := s.inbox ++ [f] } = burden now n s + toll σ (n + 1) := by
  simp only [burden, Station.isStopped] at h ⊢
  simp [h, Nat.succ_mul, Nat.add_assoc]

theorem budget_passed (r : Run σ ω) {i : Nat} {rest : List Nat} (hr : r.ready = i :: rest)
    (woken : List Nat) : ((r.roused woken).passed false).budget + 1 = r.budget + woken.length := by
  simp [passed, budget, roused, hr]
  omega

/-- Two moves are allowed for handing a frame on: the delivery, and the turn of the task that the
frame wakes. -/
theorem hands_budget (r : Run σ ω) {i : Nat} {s next : Station σ} (hs : r.stations[i]? = some s)
    {f : Frame} {fs : List Frame} {atEnd : Bool} (h : s.task = .delivering (f :: fs) atEnd)
    (hn : r.stations[i + 1]? = some next) (hnext : next.isStopped = false) :
    ((r.update (i + 1) { next with inbox := next.inbox ++ [f] }).update i
      { s with task := .delivering fs atEnd }).budget + 2 = r.budget := by
  have hi : (r.update (i + 1) { next with inbox := next.inbox ++ [f] }).stations[i]? = some s := by
    simpa [update, List.getElem?_set_ne] using hs
  have hlater : i + 1 < r.stations.length := (List.getElem?_eq_some_iff.mp hn).1
  have hlen : r.stations.length - (i + 1) = r.stations.length - (i + 1 + 1) + 1 := by omega
  have hburden := burden_delivers r.now (r.stations.length - (i + 1)) h
  have hgiven := r.budget_update hn r.world { next with inbox := next.inbox ++ [f] }
  have hmine := budget_update _ hi r.world { s with task := .delivering fs atEnd }
  -- What the next station gains by the frame is counted for it in the burden of this one.
  rw [burden_receives hnext, ← hlen] at hgiven
  simp only [update, List.length_set] at hgiven hmine ⊢
  omega

theorem halts_budget (r : Run σ ω) {i : Nat} {s : Station σ} (hs : r.stations[i]? = some s)
    (h : s.isStopped = false) (effect : Effect σ ω Unit) :
    ({ r with world := effect.world }.update i (told s effect .stopped)).budget + 3 ≤ r.budget := by
  have hburden := burden_running r.now (r.stations.length - (i + 1)) h
  have hhalted := r.budget_update hs effect.world (told s effect .stopped)
  rw [burden_stopped (s := told s _ .stopped) rfl] at hhalted
  omega

theorem moves_budget [Tame σ] {r v : Run σ ω} {i : Nat} {rest : List Nat} {s : Station σ}
    {goesOn : Bool} (hr : r.ready = i :: rest) (hs : r.stations[i]? = some s)
    (hm : Moves r i s v goesOn) : (v.passed goesOn).budget < r.budget := by
  cases hm with
  | stays => simp [passed, budget, hr]
  | sleeps => simp [passed, budget, hr]
  | begins h => exact r.budget_update_lt (k := 0) hs (Nat.zero_add _ ▸ burden_begins h _)
  | takes h hf hw =>
    simp only [passed, if_true, budget_roused]
    exact Nat.lt_of_le_of_lt (Nat.add_le_add_left hw.few _)
      (r.budget_update_lt hs (burden_takes h hf r.world r.time _))
  | expires h hf he hd =>
    exact r.budget_update_lt (k := 0) hs
      (Nat.zero_add _ ▸ burden_expires h r.world hd)
  | returns h =>
    exact r.budget_update_lt (k := 0) hs (Nat.zero_add _ ▸ burden_returns h r)
  | @emits f fs atEnd h hn ho =>
    have hburden := burden_delivers r.now (r.stations.length - (i + 1)) h
    let out : Run σ ω := { r with output := r.output ++ [(r.now, f)], reader := r.reader.offered }
    exact out.budget_update_lt (k := 0) hs (by
      dsimp only [out]
      omega)
  | hands h hn hnext hl hw =>
    have hhanded := r.hands_budget hs h hn hnext
    have := hw.few
    simp only [passed, if_true, budget_roused]
    omega
  | @halts atEnd woken h hw =>
    have hrunning : s.isStopped = false := by
      rcases h with ⟨h, _⟩ | ⟨⟨f, fs, h⟩, _⟩ <;> simp [Station.isStopped, h]
    have hhalted := r.halts_budget hs hrunning (r.stopped s atEnd)
    have hpassed := budget_passed ({ r with world := (r.stopped s atEnd).world }.update i
      (told s (r.stopped s atEnd) .stopped)) hr woken
    have := hw.few
    omega

/-- Every step leaves less to do. -/
theorem step_budget [Tame σ] {r r' : Run σ ω} (h : r.step = some r') : r'.budget < r.budget := by
  obtain ⟨i, rest, hr, ⟨hn, rfl⟩ | ⟨s, v, goesOn, hs, hm, rfl⟩⟩ := step_cases h
  · simp [budget, hushed, hr]
  · exact moves_budget (r := r.hushed i) hr hs hm

theorem settleFor_ready [Tame σ] (fuel : Nat) (r : Run σ ω) (h : r.budget ≤ fuel) :
    (settleFor fuel r).ready = [] := by
  induction fuel generalizing r with
  | zero =>
    have hready : r.ready.length = 0 := by
      unfold budget at h
      omega
    exact List.length_eq_zero_iff.mp hready
  | succ fuel ih =>
    unfold settleFor
    cases hr : r.step with
    | none => exact r.step_eq_none_iff.mp hr
    | some next =>
      have := step_budget hr
      exact ih next (by omega)

/-- When a run has settled, no task can go on. -/
theorem settle_ready [Tame σ] (r : Run σ ω) : r.settle.ready = [] :=
  settleFor_ready _ r (Nat.le_refl _)

theorem settle_idle {r : Run σ ω} (h : r.ready = []) : r.settle = r := by
  unfold settle
  cases r.budget with
  | zero => rfl
  | succ fuel => rw [settleFor, r.step_eq_none_iff.mpr h]

inductive Leads : Run σ ω → Run σ ω → Prop
  | here (r : Run σ ω) : Leads r r
  | step {r v u : Run σ ω} (h : r.step = some v) (hl : Leads v u) : Leads r u

theorem Leads.trans {r v u : Run σ ω} (h : Leads r v) (hl : Leads v u) : Leads r u := by
  induction h with
  | here r => exact hl
  | step hs _ ih => exact .step hs (ih hl)

theorem leads_settleFor (fuel : Nat) (r : Run σ ω) : Leads r (settleFor fuel r) := by
  induction fuel generalizing r with
  | zero => exact .here r
  | succ fuel ih =>
    unfold settleFor
    cases hr : r.step with
    | none => exact .here r
    | some next => exact .step hr (ih next)

theorem Leads.settle_eq [Tame σ] {r v : Run σ ω} (h : Leads r v) (hv : v.ready = []) :
    r.settle = v := by
  suffices hfuel : ∀ fuel, r.budget ≤ fuel → settleFor fuel r = v from hfuel _ (Nat.le_refl _)
  induction h with
  | here r =>
    intro fuel _
    cases fuel with
    | zero => rfl
    | succ fuel => rw [settleFor, r.step_eq_none_iff.mpr hv]
  | step hs _ ih =>
    -- The budget falls with each step, so what is left suffices for the rest.
    intro fuel hfuel
    have hless := step_budget hs
    cases fuel with
    | zero => omega
    | succ fuel =>
      rw [settleFor, hs]
      exact ih hv fuel (by omega)

/-! ## Pauses -/

theorem passUntil_idle {r : Run σ ω} {target : Nat} (h : ∀ t ∈ r.nextAlarm, target < t)
    (left : Nat) : passUntil target left r = { r with now := target } := by
  cases left with
  | zero => rfl
  | succ left =>
    unfold passUntil
    cases hn : r.nextAlarm with
    | none => rfl
    | some t => exact if_neg (Nat.not_le.mpr (h t hn))

theorem passUntil_ring {r : Run σ ω} {target t : Nat} (h : r.nextAlarm = some t)
    (hle : t ≤ target) (left : Nat) :
    passUntil target (left + 1) r = passUntil target left (r.ring t) := by
  simp only [passUntil, h, hle, if_true]

end Run

end Pipeline

end BargeIn
