import Mathlib.Control.Monad.Basic
import Mathlib.Data.Nat.Find
import BargeIn.Proofs.Run.Draining
import BargeIn.Proofs.Run.Recording

/-!
# Frames that nobody has taken

While the reader leaves frames in its queue, tasks may have to wait for room, from some place of
the chain to its end. When the reader goes, these are the tasks that end at once, the last one
first. The others end frame by frame.
-/

set_option autoImplicit false

namespace BargeIn.Pipeline

variable {σ ω : Type}

namespace Run

variable {kind : σ → Prop} {r v : Run σ ω}

/-- In an idle run the stations before some place are at rest, and the others wait for room. -/
structure Backlog (r : Run σ ω) (m : Nat) : Prop where
  few : m ≤ r.stations.length
  resting : ∀ i s, r.stations[i]? = some s → i < m → AtRest s
  waiting : ∀ i s, r.stations[i]? = some s → m ≤ i → WaitsForRoom s ∧ r.room i = .full

theorem AtRest.not_waits {s : Station σ} (h : AtRest s) : ¬WaitsForRoom s := by
  rintro ⟨f, fs, atEnd, ht⟩
  rw [h.1] at ht
  cases ht

theorem Backlog.all {m : Nat} (h : r.Backlog m) (hrest : ∀ s ∈ r.stations, AtRest s) :
    m = r.stations.length := by
  by_contra hne
  have hlt : m < r.stations.length := Nat.lt_of_le_of_ne h.few hne
  have hs := List.getElem?_eq_getElem hlt
  exact (hrest _ (List.getElem_mem hlt)).not_waits (h.waiting m _ hs (Nat.le_refl m)).1

/-- The reader of the run `u` has gone, and of the tasks that waited for room those from some place
on have ended. -/
structure Retreating (kind : σ → Prop) (u : Run σ ω) (m k : Nat) (v : Run σ ω) : Prop where
  input : v.inputOpen = true
  capacity : v.capacity = u.capacity
  reader : v.reader = .gone
  length : v.stations.length = u.stations.length
  least : m ≤ k
  most : k ≤ u.stations.length
  before : ∀ i < k, v.stations[i]? = u.stations[i]?
  ended : ∀ i s, v.stations[i]? = some s → k ≤ i → s.isStopped = true ∧ kind s.stage
  turn : ∀ i, k = i + 1 → m ≤ i → i ∈ v.ready

namespace Retreating

variable {u : Run σ ω} {m k : Nat}

theorem skip (h : Retreating kind u m k v) {i : Nat} {rest : List Nat} (hr : v.ready = i :: rest)
    (hi : k = i + 1 → i < m) (alarms : List (Nat × Nat)) :
    Retreating kind u m k { v with alarms, ready := rest } := by
  refine ⟨h.input, h.capacity, h.reader, h.length, h.least, h.most, h.before, h.ended, ?_⟩
  intro j hj hle
  have hturn := h.turn j hj hle
  rw [hr] at hturn
  refine (List.mem_cons.mp hturn).resolve_left ?_
  rintro rfl
  exact absurd (hi hj) (Nat.not_lt.mpr hle)

theorem room_before (h : Retreating kind u m k v) {i : Nat} (hi : i + 1 < k) :
    v.room i = u.room i := by
  have hlt : i + 1 < u.stations.length := Nat.lt_of_lt_of_le hi h.most
  rw [room, room, h.before (i + 1) hi, List.getElem?_eq_getElem hlt, h.capacity]

theorem room_last (h : Retreating kind u m (k + 1) v) : v.room k = .closed := by
  unfold room
  cases hn : v.stations[k + 1]? with
  | none => rw [h.reader]; rfl
  | some next => exact admits_closed_iff.mpr (h.ended (k + 1) next hn (Nat.le_refl _)).1

theorem hushed (h : Retreating kind u m k v) (i : Nat) : Retreating kind u m k (v.hushed i) :=
  ⟨h.input, h.capacity, h.reader, h.length, h.least, h.most, h.before, h.ended, h.turn⟩

end Retreating

variable [Processor σ ω]

namespace Retreating

variable {u : Run σ ω} {m k : Nat}

theorem halt (hone : OneForOne kind) (hu : u.Backlog m) (h : Retreating kind u m (k + 1) v)
    (hle : m ≤ k) {rest : List Nat} {s : Station σ} (hr : v.ready = k :: rest)
    (hs : v.stations[k]? = some s) (hkind : kind s.stage) (atEnd : Bool) {woken : List Nat}
    (hwoken : ∀ j, v.IsSender k j → j ∈ v.ready ++ woken) :
    Retreating kind u m k ((({ v with world := (v.stopped s atEnd).world }.update k
      (told s (v.stopped s atEnd) .stopped)).roused woken).passed false) := by
  have hlt := (List.getElem?_eq_some_iff.mp hs).1
  refine ⟨h.input, h.capacity, h.reader, List.length_set.trans h.length, hle,
    Nat.le_of_succ_le h.most, fun i hi => ?_, fun i t ht hi => ?_, fun i hi hmi => ?_⟩
  · rw [← h.before i (Nat.lt_succ_of_lt hi)]
    exact List.getElem?_set_ne (Nat.ne_of_gt hi)
  · by_cases hik : k = i
    · subst hik
      obtain rfl : told s (v.stopped s atEnd) .stopped = t :=
        Option.some.inj ((List.getElem?_set_self hlt).symm.trans ht)
      exact ⟨rfl, hone.lasting.stopped (i := 0) hkind atEnd⟩
    · exact h.ended i t ((List.getElem?_set_ne hik).symm.trans ht) (by omega)
  · subst hi
    have hi : i < u.stations.length := by have := h.most; omega
    have hbefore : v.stations[i]? = some u.stations[i] :=
      (h.before i (by omega)).trans (List.getElem?_eq_getElem hi)
    have hwaits := (hu.waiting i _ (List.getElem?_eq_getElem hi) hmi).1
    have hmem := hwoken i ⟨rfl, _, hbefore, hwaits⟩
    rw [hr, List.cons_append] at hmem
    have hrest : i ∈ rest ++ woken := (List.mem_cons.mp hmem).resolve_left (by omega)
    simpa [passed, roused, Run.update, hr] using hrest

theorem rest_moves (hone : OneForOne kind) (hu : u.Flowing) (h : Retreating kind u m k v) {i : Nat}
    {rest : List Nat} {s : Station σ} {w : Run σ ω} {goesOn : Bool} (hr : v.ready = i :: rest)
    (hs : u.stations[i]? = some s) (hkind : kind s.stage) (hi : i < m) (hrest : AtRest s)
    (hm : Moves v i s w goesOn) : Retreating kind u m k (w.passed goesOn) := by
  obtain ⟨htask, hinbox⟩ := hrest
  have hgoesOn : v.inputEnded i = false := by
    cases i with
    | zero => simp [inputEnded, h.input]
    | succ i =>
      have hlt : i < u.stations.length := Nat.lt_of_succ_lt (List.getElem?_eq_some_iff.mp hs).1
      have hbefore := (h.before i (by have := h.least; omega)).trans (List.getElem?_eq_getElem hlt)
      simp [inputEnded, hbefore, hu.running _ (List.getElem_mem hlt)]
  have hskip := h.skip hr fun _ => hi
  cases hm with
  | stays => simpa [passed, hr] using hskip v.alarms
  | sleeps =>
    simpa [passed, hr] using
      hskip (v.alarms ++ (Processor.deadline s.stage).toList.map fun d => (d.tick, i))
  | takes _ hf => cases hinbox.symm.trans hf
  | expires _ _ _ hd =>
    obtain ⟨d, hd, _⟩ := hd
    cases (hone.timeless s.stage hkind).symm.trans hd
  | halts hends =>
    rcases hends with ⟨_, _, hended, _⟩ | ⟨⟨f, fs, ht⟩, _⟩
    · cases hgoesOn.symm.trans hended
    · cases htask.symm.trans ht
  | begins ht | hands ht | emits ht | returns ht => cases htask.symm.trans ht

theorem wait_moves (hone : OneForOne kind) (hu : u.Backlog m) (h : Retreating kind u m k v)
    {i : Nat} {rest : List Nat} {s : Station σ} {w : Run σ ω} {goesOn : Bool}
    (hr : v.ready = i :: rest) (hs : v.stations[i]? = some s) (hsu : u.stations[i]? = some s)
    (hkind : kind s.stage) (hmi : m ≤ i) (hik : i < k) (hm : Moves v i s w goesOn) :
    ∃ k', Retreating kind u m k' (w.passed goesOn) := by
  obtain ⟨⟨f, fs, atEnd, htask⟩, hfull⟩ := hu.waiting i s hsu hmi
  have hcases : i + 1 < k ∧ v.room i = .full ∨ k = i + 1 ∧ v.room i = .closed := by
    rcases Nat.lt_or_eq_of_le (Nat.succ_le_of_lt hik) with hlt | rfl
    · exact .inl ⟨hlt, (h.room_before hlt).trans hfull⟩
    · exact .inr ⟨rfl, h.room_last⟩
  cases hm with
  | stays hstays =>
    have hroom : v.room i = .full := by
      rcases hstays with hstopped | ⟨_, hroom⟩
      · cases htask.symm.trans hstopped
      · exact hroom
    have hlater : i + 1 < k := (hcases.resolve_right fun hlast => by
      cases hroom.symm.trans hlast.2).1
    have hskip := h.skip hr (fun hk => absurd hk (by omega)) v.alarms
    exact ⟨k, by simpa [passed, hr] using hskip⟩
  | hands _ hn hnext hl =>
    have hroom : v.room i = .accepted := by
      simp [room, hn, Station.admits, hnext, hl]
    rcases hcases with ⟨_, hwas⟩ | ⟨_, hwas⟩ <;> cases hroom.symm.trans hwas
  | emits _ _ ho =>
    rw [h.reader] at ho
    cases ho
  | halts hends hw =>
    rcases hends with ⟨ht, _⟩ | ⟨_, hclosed⟩
    · cases htask.symm.trans ht
    · obtain rfl : k = i + 1 := (hcases.resolve_left fun hlater => by
        cases hclosed.symm.trans hlater.2).1
      exact ⟨i, h.halt hone hu hmi hr hs hkind _ fun j hj => hw.awake j (.inl hj)⟩
  | begins ht | takes ht | expires ht | sleeps ht | returns ht => cases htask.symm.trans ht

theorem step (hone : OneForOne kind) (hu : u.Flowing) (hbacklog : u.Backlog m)
    (hkind : u.Everywhere fun _ => kind) (h : Retreating kind u m k v) {v' : Run σ ω}
    (hstep : v.step = some v') : ∃ k', Retreating kind u m k' v' := by
  obtain ⟨i, rest, hr, ⟨hn, rfl⟩ | ⟨s, w, goesOn, hs, hm, rfl⟩⟩ := step_cases hstep
  · refine ⟨k, (h.hushed i).skip hr (fun hk => ?_) _⟩
    have hlength := h.length
    have hmost := h.most
    have := List.getElem?_eq_none_iff.mp hn
    omega
  · have hhushed := h.hushed i
    by_cases hik : i < k
    · have hsu : u.stations[i]? = some s := (h.before i hik).symm.trans hs
      by_cases him : i < m
      · exact ⟨k, hhushed.rest_moves hone hu hr hsu (hkind i s hsu) him
          (hbacklog.resting i s hsu him) hm⟩
      · exact hhushed.wait_moves hone hbacklog hr hs hsu (hkind i s hsu) (by omega) hik hm
    · obtain ⟨hstopped, _⟩ := h.ended i s hs (by omega)
      have htask : s.task = .stopped := by simpa [Station.isStopped] using hstopped
      cases hm with
      | stays =>
        have hskip := hhushed.skip hr (fun hk => absurd hk (by omega)) (v.hushed i).alarms
        exact ⟨k, by simpa [passed, Run.hushed, hr] using hskip⟩
      | halts hends =>
        rcases hends with ⟨ht, _⟩ | ⟨⟨f, fs, ht⟩, _⟩ <;> cases htask.symm.trans ht
      | begins ht | takes ht | expires ht | sleeps ht | hands ht | emits ht | returns ht =>
        cases htask.symm.trans ht

end Retreating

end Run

variable [Processor σ ω]

theorem OneForOne.recorded {kind : σ → Prop} (h : OneForOne kind) :
    OneForOne fun s : Recorder σ => kind s.stage where
  lasting :=
    ⟨fun i s => h.lasting.start i s.stage, fun i s => h.lasting.stop i s.stage,
      fun i s => h.lasting.process i s.stage, fun i s => h.lasting.expire i s.stage⟩
  timeless s := h.timeless s.stage
  single s w c now f hs := h.single s.stage w c now f hs

end BargeIn.Pipeline
