import BargeIn.Proofs.Run.Settling

/-!
# Open runs

While the ends of a run are open and no task has stopped, a task that cannot go on either has
nothing to take or waits for room in a full queue. The last of those that wait for room would have
a full queue before a task that has nothing to take, so a settled run is at rest altogether. Every
alarm is that of the deadline which its stage reports.
-/

set_option autoImplicit false

namespace BargeIn.Pipeline

namespace Task

def owed : Task → List Frame
  | .delivering frames _ => frames
  | _ => []

def atEnd : Task → Bool
  | .delivering _ atEnd => atEnd
  | _ => false

end Task

theorem Reader.offered_full {reader : Reader} {capacity : Nat}
    (h : reader.admits capacity = .full) : reader.offered.admits capacity = .full := by
  cases reader with
  | prompt | gone => exact h
  | tardy unread =>
    simp only [Reader.admits, Reader.offered] at h ⊢
    split at h
    case isTrue => cases h
    case isFalse hl => exact if_neg (by omega)

theorem Reader.admits_closed_iff {reader : Reader} {capacity : Nat} :
    reader.admits capacity = .closed ↔ reader = .gone := by
  cases reader with
  | prompt | gone => simp [Reader.admits]
  | tardy unread =>
    simp only [Reader.admits]
    split <;> simp

theorem Reader.offered_gone_iff {reader : Reader} : reader.offered = .gone ↔ reader = .gone := by
  cases reader <;> simp [Reader.offered]

theorem Reader.take_gone_iff {reader : Reader} {frames : Option Nat} :
    reader.take frames = .gone ↔ reader = .gone := by
  cases reader <;> cases frames <;> simp [Reader.take]

namespace Run

variable {σ ω : Type}

@[simp] theorem roused_nil (r : Run σ ω) : r.roused [] = r := by simp [roused]

def AtRest (s : Station σ) : Prop := s.task = .waiting ∧ s.inbox = []

theorem admits_full_iff {s : Station σ} {capacity : Nat} :
    s.admits capacity = .full ↔ s.isStopped = false ∧ capacity ≤ s.inbox.length := by
  unfold Station.admits
  split
  case isTrue h => simp [h]
  case isFalse h => split <;> simp_all

theorem room_full_iff {r : Run σ ω} {i : Nat} : r.room i = .full ↔
    (r.stations[i + 1]? = none ∧ r.reader.admits r.capacity = .full) ∨
      ∃ next, r.stations[i + 1]? = some next ∧ next.isStopped = false ∧
        r.capacity ≤ next.inbox.length := by
  unfold room
  cases r.stations[i + 1]? with
  | none => simp
  | some next => simp [admits_full_iff]

theorem entry_accepted_iff {r : Run σ ω} : r.entry = .accepted ↔
    ∃ s, r.stations[0]? = some s ∧ r.inputOpen = true ∧ s.isStopped = false ∧
      s.inbox.length < r.capacity := by
  unfold entry
  cases r.stations[0]? with
  | none => simp
  | some s =>
    cases r.inputOpen <;> simp [Station.admits]
    cases s.isStopped <;> simp

theorem posted_eq {r : Run σ ω} {s : Station σ} (hs : r.stations[0]? = some s) (f : Frame) :
    ∃ woken, r.posted f = (r.update 0 { s with inbox := s.inbox ++ [f] }).roused woken := by
  obtain ⟨woken, hw, _⟩ := (r.update 0 { s with inbox := s.inbox ++ [f] }).wake_eq 0
  exact ⟨woken, by simp only [posted, hs, hw]⟩

variable [Processor σ ω]

structure Flowing (r : Run σ ω) : Prop where
  roomy : 0 < r.capacity
  input : r.inputOpen = true
  reader : r.reader ≠ .gone
  running : ∀ s ∈ r.stations, s.isStopped = false
  blocked : ∀ i s, r.stations[i]? = some s → i ∉ r.ready →
    AtRest s ∨ WaitsForRoom s ∧ r.room i = .full
  alarmed : ∀ a ∈ r.alarms, ∃ s d,
    r.stations[a.2]? = some s ∧ Processor.deadline s.stage = some d ∧ d.tick = a.1

def Quiet (r : Run σ ω) (ms : Nat) : Prop :=
  ∀ s ∈ r.stations, ∀ d ∈ Processor.deadline s.stage, Instant.ofMillis ms < d

instance (r : Run σ ω) (ms : Nat) : Decidable (r.Quiet ms) :=
  inferInstanceAs (Decidable (∀ s ∈ r.stations, _))

theorem Quiet.not_due {r : Run σ ω} (h : r.Quiet r.now) {s : Station σ} (hs : s ∈ r.stations) :
    ¬r.Due s.stage := by
  rintro ⟨d, hd, hle⟩
  exact (d.not_tick_le_iff r.now).mpr (h s hs d hd) hle

def courseFor : Nat → Run σ ω → List (Run σ ω)
  | 0, r => [r]
  | fuel + 1, r =>
    match r.step with
    | none => [r]
    | some next => r :: courseFor fuel next

def course (r : Run σ ω) : List (Run σ ω) :=
  courseFor r.budget r

theorem settle_keeps_quietly {P : Run σ ω → Prop}
    (hstep : ∀ r r', r.Quiet r.now → P r → r.step = some r' → P r') {r : Run σ ω}
    (hq : ∀ v ∈ r.course, v.Quiet v.now) (h : P r) : P r.settle := by
  unfold settle
  unfold course at hq
  generalize r.budget = fuel at hq
  induction fuel generalizing r with
  | zero => exact h
  | succ fuel ih =>
    unfold settleFor
    unfold courseFor at hq
    cases hr : r.step with
    | none => exact h
    | some next =>
      rw [hr] at hq
      exact ih (hstep r next (hq r List.mem_cons_self) h hr)
        fun v hv => hq v (List.mem_cons_of_mem r hv)

def Calm (r : Run σ ω) : Deed → Prop
  | .send f => ∀ v ∈ (r.post f).course, v.Quiet v.now
  | .pause ms => r.Quiet (r.now + ms)
  | _ => r.Quiet r.now

instance (r : Run σ ω) (d : Deed) : Decidable (r.Calm d) := by
  cases d <;> unfold Calm <;> infer_instance

/-- No stage's deadline is reached at any point. -/
def Undisturbed (r : Run σ ω) : List Deed → Prop
  | [] => True
  | d :: deeds => r.Calm d ∧ (r.deed d).Undisturbed deeds

instance decideUndisturbed : (r : Run σ ω) → (deeds : List Deed) → Decidable (r.Undisturbed deeds)
  | _, [] => isTrue trivial
  | r, d :: deeds =>
    have := decideUndisturbed (r.deed d) deeds
    inferInstanceAs (Decidable (_ ∧ _))

namespace Flowing

variable {r : Run σ ω}

theorem not_closed (h : r.Flowing) (i : Nat) : r.room i ≠ .closed := by
  unfold room
  split
  case h_1 =>
    rw [ne_eq, Reader.admits_closed_iff]
    exact h.reader
  case h_2 next hn =>
    have hrunning := h.running next (List.mem_of_getElem? hn)
    simp only [Station.admits, hrunning, Bool.false_eq_true, if_false]
    split <;> simp

theorem input_goes_on (h : r.Flowing) {i : Nat} {s : Station σ} (hs : r.stations[i]? = some s) :
    r.inputEnded i = false := by
  cases i with
  | zero => simp [inputEnded, h.input]
  | succ i =>
    have hi : i < r.stations.length := by
      have := (List.getElem?_eq_some_iff.mp hs).1
      omega
    have hrunning := h.running _ (List.getElem_mem hi)
    simp [inputEnded, List.getElem?_eq_getElem hi, hrunning]

theorem never_halts (h : r.Flowing) {i : Nat} {s : Station σ} {atEnd : Bool}
    (hs : r.stations[i]? = some s)
    (hends : s.task = .waiting ∧ s.inbox = [] ∧ r.inputEnded i = true ∧ atEnd = false ∨
      (∃ f fs, s.task = .delivering (f :: fs) atEnd) ∧ r.room i = .closed) : False := by
  rcases hends with ⟨_, _, hended, _⟩ | ⟨_, hclosed⟩
  · simp [h.input_goes_on hs] at hended
  · exact h.not_closed i hclosed

theorem atRest (h : r.Flowing) (hr : r.ready = []) (hreader : r.reader.admits r.capacity ≠ .full) :
    ∀ s ∈ r.stations, AtRest s := by
  -- From the last station to the first: a full queue would be that of a task at rest.
  have hrest : ∀ k i s, r.stations[i]? = some s → r.stations.length ≤ i + k → AtRest s := by
    intro k
    induction k with
    | zero =>
      intro i s hs hk
      have := (List.getElem?_eq_some_iff.mp hs).1
      omega
    | succ k ih =>
      intro i s hs hk
      rcases h.blocked i s hs (by simp [hr]) with hrest | ⟨_, hroom⟩
      · exact hrest
      · rcases room_full_iff.mp hroom with ⟨_, hfull⟩ | ⟨next, hn, _, hfull⟩
        · exact absurd hfull hreader
        · have hempty := (ih (i + 1) next hn (by omega)).2
          have := h.roomy
          rw [hempty] at hfull
          exact absurd hfull (by simp; omega)
  intro s hs
  obtain ⟨i, hi, rfl⟩ := List.mem_iff_getElem.mp hs
  exact hrest r.stations.length i _ (List.getElem?_eq_getElem hi) (by omega)

/-- One station changes, and with it perhaps the world and what came out, while it can go on. A
station before it that waits for room goes on if there may be room now. -/
theorem update (h : r.Flowing) {i : Nat} {s : Station σ} (s' : Station σ) (woken : List Nat)
    (w : ω) (hs : r.stations[i]? = some s) (hi : i ∈ r.ready ++ woken)
    (hrunning : s'.isStopped = false)
    (halarm : s'.stage = s.stage ∨ ∀ a ∈ r.alarms, a.2 ≠ i)
    (hroom : s.inbox.length ≤ s'.inbox.length ∨ ∀ j, r.IsSender i j → j ∈ r.ready ++ woken) :
    (({ r with world := w }.update i s').roused woken).Flowing where
  roomy := h.roomy
  input := h.input
  reader := h.reader
  running t ht := by
    rcases List.mem_or_eq_of_mem_set ht with ht | rfl
    · exact h.running t ht
    · exact hrunning
  blocked j t ht hj := by
    have hne : i ≠ j := by
      rintro rfl
      exact hj hi
    have hsame : r.stations[j]? = some t := by
      simpa [Run.update, roused, List.getElem?_set_ne hne] using ht
    have hjr : j ∉ r.ready := fun hmem => hj (List.mem_append_left woken hmem)
    refine (h.blocked j t hsame hjr).imp_right ?_
    rintro ⟨hwaits, hblocked⟩
    refine ⟨hwaits, ?_⟩
    -- Only for the station just before the changed one can there be room that was not there.
    by_cases hij : i = j + 1
    · subst hij
      rcases hroom with hle | hsender
      · have hlt := (List.getElem?_eq_some_iff.mp hs).1
        rcases room_full_iff.mp hblocked with ⟨hn, _⟩ | ⟨next, hn, _, hfull⟩
        · cases hn.symm.trans hs
        · obtain rfl : next = s := Option.some.inj (hn.symm.trans hs)
          refine room_full_iff.mpr (.inr ⟨s', ?_, hrunning, Nat.le_trans hfull hle⟩)
          exact List.getElem?_set_self hlt
      · exact absurd (hsender j ⟨rfl, t, hsame, hwaits⟩) hj
    · have hnext : (r.stations.set i s')[j + 1]? = r.stations[j + 1]? := List.getElem?_set_ne hij
      simp only [room, Run.update, roused, hnext] at hblocked ⊢
      exact hblocked
  alarmed a ha := by
    obtain ⟨t, d, ht, hd, htick⟩ := h.alarmed a ha
    by_cases hia : i = a.2
    · rcases halarm with hstage | hnone
      · have hlt := (List.getElem?_eq_some_iff.mp hs).1
        have hts : t = s := Option.some.inj (ht.symm.trans (hia ▸ hs))
        refine ⟨s', d, ?_, ?_, htick⟩
        · simp [Run.update, roused, ← hia, List.getElem?_set_self hlt]
        · rw [hstage, ← hts, hd]
      · exact absurd hia.symm (hnone a ha)
    · exact ⟨t, d, by simpa [Run.update, roused, List.getElem?_set_ne hia] using ht, hd, htick⟩

theorem change (h : r.Flowing) {i : Nat} {s : Station σ} (s' : Station σ) (w : ω)
    (hs : r.stations[i]? = some s) (hi : i ∈ r.ready) (hrunning : s'.isStopped = false)
    (halarm : s'.stage = s.stage ∨ ∀ a ∈ r.alarms, a.2 ≠ i)
    (hroom : s.inbox.length ≤ s'.inbox.length) :
    ({ r with world := w }.update i s').Flowing := by
  have hupdate := h.update s' [] w hs (List.mem_append_left [] hi) hrunning halarm (.inl hroom)
  rw [roused_nil] at hupdate
  exact hupdate

theorem offered (h : r.Flowing) (out : List (Nat × Frame)) :
    { r with output := out, reader := r.reader.offered }.Flowing where
  roomy := h.roomy
  input := h.input
  reader := fun hgone => h.reader (Reader.offered_gone_iff.mp hgone)
  running := h.running
  blocked i s hs hi := by
    refine (h.blocked i s hs hi).imp_right (And.imp_right fun hfull => ?_)
    rw [room_full_iff] at hfull ⊢
    exact hfull.imp_left (And.imp_right Reader.offered_full)
  alarmed := h.alarmed

theorem skip (h : r.Flowing) {i : Nat} {rest : List Nat} (hr : r.ready = i :: rest)
    (alarms : List (Nat × Nat))
    (hi : ∀ s, r.stations[i]? = some s → AtRest s ∨ WaitsForRoom s ∧ r.room i = .full)
    (halarms : ∀ a ∈ alarms, a ∈ r.alarms ∨ ∃ s d,
      r.stations[a.2]? = some s ∧ Processor.deadline s.stage = some d ∧ d.tick = a.1) :
    { r with alarms, ready := rest }.Flowing where
  roomy := h.roomy
  input := h.input
  reader := h.reader
  running := h.running
  blocked j s hs hj := by
    by_cases hij : i = j
    · subst hij
      exact hi s hs
    · exact h.blocked j s hs (by simp [hr, hj, Ne.symm hij])
  alarmed a ha := (halarms a ha).elim (h.alarmed a) id

theorem hushed (h : r.Flowing) (i : Nat) : (r.hushed i).Flowing where
  roomy := h.roomy
  input := h.input
  reader := h.reader
  running := h.running
  blocked := h.blocked
  alarmed a ha := h.alarmed a ((List.mem_filter.mp ha).1)

theorem hand (h : r.Flowing) {i : Nat} {s next : Station σ} {woken : List Nat} (hi : i ∈ r.ready)
    (hs : r.stations[i]? = some s) (hn : r.stations[i + 1]? = some next)
    (hrunning : next.isStopped = false) (f : Frame) (fs : List Frame) (atEnd : Bool)
    (hwoken : i + 1 ∈ r.ready ++ woken) :
    (((r.update (i + 1) { next with inbox := next.inbox ++ [f] }).update i
      { s with task := .delivering fs atEnd }).roused woken).Flowing := by
  have hnext := h.update { next with inbox := next.inbox ++ [f] } woken r.world hn hwoken
    hrunning (.inl rfl) (.inl (by simp))
  have hmine : (r.update (i + 1) { next with inbox := next.inbox ++ [f] }).stations[i]? = some s := by
    simpa [Run.update, List.getElem?_set_ne] using hs
  exact hnext.change { s with task := .delivering fs atEnd } r.world hmine
    (List.mem_append_left _ hi) rfl (.inl rfl) (Nat.le_refl _)

theorem moves {v : Run σ ω} {i : Nat} {rest : List Nat} {s : Station σ} {goesOn : Bool}
    (h : r.Flowing) (hr : r.ready = i :: rest) (hs : r.stations[i]? = some s)
    (hnone : ∀ a ∈ r.alarms, a.2 ≠ i) (hm : Moves r i s v goesOn) : (v.passed goesOn).Flowing := by
  have hrunning := h.running s (List.mem_of_getElem? hs)
  have hi : i ∈ r.ready := hr ▸ List.mem_cons_self
  cases hm with
  | stays hstays =>
    rcases hstays with hstopped | ⟨hwaits, hroom⟩
    · simp [Station.isStopped, hstopped] at hrunning
    · have hskip := h.skip hr r.alarms
        (fun t ht => .inr ⟨Option.some.inj (hs.symm.trans ht) ▸ hwaits, hroom⟩)
        (fun a ha => .inl ha)
      simpa [passed, hr] using hskip
  | sleeps ht hf he hd =>
    have hskip := h.skip hr (r.alarms ++ (Processor.deadline s.stage).toList.map fun d => (d.tick, i))
      (fun t hst => .inl (Option.some.inj (hs.symm.trans hst) ▸ ⟨ht, hf⟩)) (by
        intro a ha
        refine (List.mem_append.mp ha).imp id ?_
        intro ha
        obtain ⟨d, hd, rfl⟩ := List.mem_map.mp ha
        exact ⟨s, d, hs, Option.mem_toList.mp hd, rfl⟩)
    simpa [passed, hr] using hskip
  | begins ht => exact h.change _ _ hs hi rfl (.inr hnone) (Nat.le_refl _)
  | takes ht hf hw =>
    exact h.update _ _ _ hs (List.mem_append_left _ hi) rfl (.inr hnone) (.inr hw.awake)
  | expires ht hf he hd => exact h.change _ _ hs hi rfl (.inr hnone) (by simp [hf])
  | hands ht hn hns hl hw => exact h.hand hi hs hn hns _ _ _ (hw.awake _ rfl)
  | @emits f fs atEnd ht hn ho =>
    exact (h.offered (r.output ++ [(r.now, f)])).change { s with task := .delivering fs atEnd }
      r.world hs hi rfl (.inl rfl) (Nat.le_refl _)
  | @returns atEnd ht => exact h.change _ _ hs hi rfl (.inr hnone) (Nat.le_refl _)
  | halts hends hw => exact (h.never_halts hs hends).elim

theorem step {r' : Run σ ω} (h : r.Flowing) (hstep : r.step = some r') : r'.Flowing := by
  obtain ⟨i, rest, hr, ⟨hn, rfl⟩ | ⟨s, v, goesOn, hs, hm, rfl⟩⟩ := step_cases hstep
  · exact (h.hushed i).skip hr (r.hushed i).alarms (fun s hs => absurd (hn.symm.trans hs) (by simp))
      (fun a ha => .inl ha)
  · exact (h.hushed i).moves hr hs (fun a ha => by simpa using (List.mem_filter.mp ha).2) hm

theorem sleep_eq (h : r.Flowing) (hr : r.ready = []) {ms : Nat} (hq : r.Quiet (r.now + ms)) :
    r.sleep ms = { r with now := r.now + ms } := by
  rw [sleep, settle_idle hr]
  apply passUntil_idle
  intro t ht
  obtain ⟨a, ha, rfl⟩ := List.mem_map.mp (List.min?_mem ht)
  obtain ⟨s, d, hs, hd, htick⟩ := h.alarmed a ha
  have hlate := hq s (List.mem_of_getElem? hs) d (Option.mem_def.mpr hd)
  exact htick ▸ Nat.not_le.mp ((d.not_tick_le_iff _).mpr hlate)

theorem posted (h : r.Flowing) (f : Frame) : (r.posted f).Flowing := by
  unfold Run.posted
  split
  case h_2 => exact h
  case h_1 s hs =>
    obtain ⟨woken, hw, hwakes⟩ := (r.update 0 { s with inbox := s.inbox ++ [f] }).wake_eq 0
    rw [hw]
    exact h.update _ woken r.world hs (hwakes.awake 0 rfl)
      (h.running s (List.mem_of_getElem? hs)) (.inl rfl) (.inl (by simp))

theorem entry_open (h : r.Flowing) {s : Station σ} (hs : r.stations[0]? = some s)
    (hrest : AtRest s) : r.entry = .accepted := by
  refine entry_accepted_iff.mpr ⟨s, hs, h.input, h.running s (List.mem_of_getElem? hs), ?_⟩
  rw [hrest.2]
  exact h.roomy

theorem entry_not_closed (h : r.Flowing) {s : Station σ} (hs : r.stations[0]? = some s) :
    r.entry ≠ .closed := by
  have hrunning := h.running s (List.mem_of_getElem? hs)
  simp only [entry, hs, h.input, if_true, Station.admits, hrunning, Bool.false_eq_true, if_false]
  split <;> simp

theorem aside (h : r.Flowing) {ready : List Nat} (hready : ∀ i ∈ r.ready, i ∈ ready) (ms : Nat) :
    { r with ready, now := ms }.Flowing where
  roomy := h.roomy
  input := h.input
  reader := h.reader
  running := h.running
  blocked i s hs hi := h.blocked i s hs fun hmem => hi (hready i hmem)
  alarmed := h.alarmed

theorem read (h : r.Flowing) (frames : Option Nat) : (r.read frames).Flowing := by
  obtain ⟨woken, hw, hwakes⟩ :=
    { r with reader := r.reader.take frames }.wakeSender_eq r.stations.length
  unfold Run.read
  rw [hw]
  refine ⟨h.roomy, h.input, fun hgone => h.reader (Reader.take_gone_iff.mp hgone), h.running, ?_,
    h.alarmed⟩
  intro i s hs hi
  have hi' : i ∉ r.ready := fun hmem => hi (List.mem_append_left woken hmem)
  refine (h.blocked i s hs hi').imp_right ?_
  rintro ⟨hwaits, hfull⟩
  refine ⟨hwaits, ?_⟩
  -- The last station has been woken if it waits, and the others do not see the reader.
  rcases room_full_iff.mp hfull with ⟨hn, _⟩ | hnext
  · have hlast : r.stations.length = i + 1 :=
      Nat.le_antisymm (List.getElem?_eq_none_iff.mp hn) (List.getElem?_eq_some_iff.mp hs).1
    exact absurd (hwakes.awake i ⟨hlast, s, hs, hwaits⟩) hi
  · exact room_full_iff.mpr (.inr hnext)

theorem unstarted (chain : Chain σ ω) (conversation : Conversation) {capacity : Nat}
    (hcapacity : 0 < capacity) : (Run.unstarted chain conversation capacity).Flowing where
  roomy := hcapacity
  input := rfl
  reader := by simp [Run.unstarted]
  running s hs := by
    obtain ⟨stage, _, rfl⟩ := List.mem_map.mp hs
    rfl
  blocked i s hs hi := by
    have hlt := (List.getElem?_eq_some_iff.mp hs).1
    rw [Run.unstarted, List.length_map] at hlt
    exact absurd (List.mem_range.mpr hlt) hi
  alarmed a ha := absurd ha List.not_mem_nil

end Flowing

/-! ## Runs at rest -/

/-- All tasks wait for a frame, and what comes out is taken at once. -/
structure Steady (r : Run σ ω) : Prop where
  flowing : r.Flowing
  idle : r.ready = []
  reader : r.reader = .prompt

structure Rests (r : Run σ ω) (stages : List σ) (w : ω) : Prop extends r.Steady where
  stages : r.stations.map (·.stage) = stages
  world : r.world = w

theorem map_set_same {α : Type} (f : Station σ → α) {stations : List (Station σ)} {i : Nat}
    {s s' : Station σ} (hs : stations[i]? = some s) (h : f s' = f s) :
    (stations.set i s').map f = stations.map f := by
  obtain ⟨hi, rfl⟩ := List.getElem?_eq_some_iff.mp hs
  have hlen : i < (stations.map f).length := by simpa using hi
  have hmapped : f stations[i] = (stations.map f)[i] := by simp
  rw [List.map_set, h, hmapped, List.set_getElem_self]

theorem Steady.atRest {r : Run σ ω} (h : r.Steady) : ∀ s ∈ r.stations, AtRest s :=
  h.flowing.atRest h.idle (by simp [h.reader, Reader.admits])

theorem Rests.sleep {r : Run σ ω} {stages : List σ} {w : ω} (h : r.Rests stages w) {ms : Nat}
    (hq : r.Quiet (r.now + ms)) : (r.sleep ms).Rests stages w := by
  rw [h.flowing.sleep_eq h.idle hq]
  exact ⟨⟨h.flowing.aside (fun _ hi => hi) (r.now + ms), h.idle, h.reader⟩, h.stages, h.world⟩

/-- Nothing changes when the stage is told that the stream starts. -/
def Unmoved (w : ω) (s : σ) : Prop :=
  ∀ c : Conversation, (Processor.start s w c (.ofMillis 0)).stage = s ∧
    (Processor.start s w c (.ofMillis 0)).world = w

structure Starting (stages : List σ) (w : ω) (r : Run σ ω) : Prop where
  flowing : r.Flowing
  empty : ∀ s ∈ r.stations, (s.task = .unstarted ∨ s.task = .waiting) ∧ s.inbox = []
  stages : r.stations.map (·.stage) = stages
  world : r.world = w
  reader : r.reader = .prompt
  now : r.now = 0
  output : r.output = []

theorem Starting.step {stages : List σ} {w : ω} {r r' : Run σ ω} (h : Starting stages w r)
    (hstart : ∀ s ∈ stages, Unmoved w s)
    (hcalm : ∀ s ∈ stages, Processor.deadline s = none) (hstep : r.step = some r') :
    Starting stages w r' := by
  have hflowing := h.flowing.step hstep
  obtain ⟨i, rest, hr, ⟨hn, rfl⟩ | ⟨s, v, goesOn, hs, hm, rfl⟩⟩ := step_cases hstep
  · exact ⟨hflowing, h.empty, h.stages, h.world, h.reader, h.now, h.output⟩
  have hmem := List.mem_of_getElem? hs
  have hstage : s.stage ∈ stages := h.stages ▸ List.mem_map_of_mem hmem
  obtain ⟨htask, hinbox⟩ := h.empty s hmem
  cases hm with
  | stays => exact ⟨hflowing, h.empty, h.stages, h.world, h.reader, h.now, h.output⟩
  | sleeps => exact ⟨hflowing, h.empty, h.stages, h.world, h.reader, h.now, h.output⟩
  | begins ht =>
    have htime : r.time = .ofMillis 0 := congrArg Instant.ofMillis h.now
    obtain ⟨hkept, hworld⟩ := hstart s.stage hstage s.conversation
    rw [← htime, ← h.world] at hkept hworld
    refine ⟨hflowing, ?_, ?_, hworld.trans h.world, h.reader, h.now, h.output⟩
    · intro t ht
      rcases List.mem_or_eq_of_mem_set ht with ht | rfl
      · exact h.empty t ht
      · exact ⟨.inr rfl, hinbox⟩
    · rw [← h.stages]
      exact map_set_same (·.stage) hs hkept
  | takes ht hf => simp [hinbox] at hf
  | expires ht hf he hd =>
    obtain ⟨d, hd, _⟩ := hd
    simp [hcalm s.stage hstage] at hd
  | hands ht | emits ht | returns ht => simp [ht] at htask
  | halts hends => exact ((h.flowing.hushed i).never_halts hs hends).elim

end Run

end BargeIn.Pipeline
