import Mathlib.Control.Monad.Basic
import BargeIn.Proofs.Run.Shutdown

/-!
# Shutdown frame by frame

Where every stage makes one frame of each that it takes, and none by itself, a frame that is sent
to a chain at rest is the only one on its way. It goes from station to station until it comes to
the last whose task still goes on, and ends that task: nobody takes what comes of it there.
-/

set_option autoImplicit false

namespace BargeIn.Pipeline

variable {σ ω : Type}

def Station.held (s : Station σ) : Nat := s.inbox.length + s.task.owed.length

def oneAt (place : Option Nat) (i : Nat) : Nat := if place = some i then 1 else 0

namespace Run

/-- The output is closed, and the first `running` tasks go on. These hold so many frames each, and
those that cannot go on are at rest. -/
structure Holding (kind : σ → Prop) (running : Nat) (load : Nat → Nat) (r : Run σ ω) : Prop where
  roomy : 0 < r.capacity
  input : r.inputOpen = true
  reader : r.reader = .gone
  few : running ≤ r.stations.length
  kind : r.Everywhere fun _ => kind
  begun : ∀ s ∈ r.stations, s.task ≠ .unstarted
  stopped : ∀ i s, r.stations[i]? = some s → (s.isStopped = true ↔ running ≤ i)
  held : ∀ i s, r.stations[i]? = some s → i < running → s.held = load i
  resting : ∀ i s, r.stations[i]? = some s → i < running → i ∉ r.ready → AtRest s

namespace Holding

variable {kind : σ → Prop} {running : Nat} {load : Nat → Nat} {place : Option Nat} {r : Run σ ω}

theorem going (h : Holding kind running load r) {i : Nat} {s : Station σ}
    (hs : r.stations[i]? = some s) (hrunning : s.isStopped = false) : i < running := by
  apply Nat.not_le.mp
  intro hle
  rw [(h.stopped i s hs).mpr hle] at hrunning
  cases hrunning

theorem update (h : Holding kind running load r) {i : Nat} {s : Station σ} (s' : Station σ)
    (load' : Nat → Nat) (woken : List Nat) (w : ω) (hs : r.stations[i]? = some s)
    (hi : i ∈ r.ready ++ woken) (hkind : kind s'.stage) (hbegun : s'.task ≠ .unstarted)
    (hrunning : s'.isStopped = s.isStopped) (hheld : s'.held = load' i)
    (hothers : ∀ j, j ≠ i → load' j = load j) :
    Holding kind running load' (({ r with world := w }.update i s').roused woken) := by
  have hlt := (List.getElem?_eq_some_iff.mp hs).1
  have hat : ∀ j t, (r.stations.set i s')[j]? = some t →
      j = i ∧ t = s' ∨ j ≠ i ∧ r.stations[j]? = some t := by
    intro j t ht
    by_cases hij : i = j
    · subst hij
      rw [List.getElem?_set_self hlt] at ht
      exact .inl ⟨rfl, (Option.some.inj ht).symm⟩
    · rw [List.getElem?_set_ne hij] at ht
      exact .inr ⟨Ne.symm hij, ht⟩
  refine ⟨h.roomy, h.input, h.reader, ?_, h.kind.update hkind, ?_, ?_, ?_, ?_⟩
  · exact Nat.le_trans h.few (Nat.le_of_eq List.length_set.symm)
  · intro t ht
    rcases List.mem_or_eq_of_mem_set ht with ht | rfl
    · exact h.begun t ht
    · exact hbegun
  · intro j t ht
    rcases hat j t ht with ⟨rfl, rfl⟩ | ⟨_, ht⟩
    · rw [hrunning]
      exact h.stopped j s hs
    · exact h.stopped j t ht
  · intro j t ht hj
    rcases hat j t ht with ⟨rfl, rfl⟩ | ⟨hij, ht⟩
    · exact hheld
    · rw [hothers j hij]
      exact h.held j t ht hj
  · intro j t ht hj hready
    rcases hat j t ht with ⟨rfl, rfl⟩ | ⟨_, ht⟩
    · exact absurd hi hready
    · exact h.resting j t ht hj fun hmem => hready (List.mem_append_left woken hmem)

theorem join (h : Holding kind running load r) {i : Nat} {s : Station σ}
    (hs : r.stations[i]? = some s) (hlt : i < running) (f : Frame) {woken : List Nat}
    (hi : i ∈ r.ready ++ woken) :
    Holding kind running (fun j => load j + oneAt (some i) j)
      ((r.update i { s with inbox := s.inbox ++ [f] }).roused woken) := by
  have hheld : s.inbox.length + s.task.owed.length = load i := h.held i s hs hlt
  have hjoined : Station.held { s with inbox := s.inbox ++ [f] } = load i + oneAt (some i) i := by
    rw [Station.held, List.length_append, oneAt, if_pos rfl]
    simp only [List.length_singleton]
    omega
  exact h.update _ (fun j => load j + oneAt (some i) j) woken r.world hs hi (h.kind i s hs)
    (h.begun s (List.mem_of_getElem? hs)) rfl hjoined fun j hj => by simp [oneAt, Ne.symm hj]

theorem skip (h : Holding kind running load r) {i : Nat} {rest : List Nat}
    (hr : r.ready = i :: rest) (alarms : List (Nat × Nat))
    (hi : ∀ s, r.stations[i]? = some s → i < running → AtRest s) :
    Holding kind running load { r with alarms, ready := rest } := by
  refine ⟨h.roomy, h.input, h.reader, h.few, h.kind, h.begun, h.stopped, h.held, ?_⟩
  intro j s hs hj hready
  by_cases hij : j = i
  · subst hij
    exact hi s hs hj
  · exact h.resting j s hs hj (by simp [hr, hij]; exact hready)

theorem halt (h : Holding kind running (oneAt place) r) {i : Nat} {rest : List Nat}
    {s s' : Station σ} (hr : r.ready = i :: rest) (hs : r.stations[i]? = some s)
    (hlast : running = i + 1) (hplace : place = some i) (hkind : kind s'.stage)
    (hstopped : s'.task = .stopped) (woken : List Nat) (w : ω) :
    Holding kind i (oneAt none)
      ((({ r with world := w }.update i s').roused woken).passed false) := by
  have hlt := (List.getElem?_eq_some_iff.mp hs).1
  have hother : ∀ j t, j ≠ i → (r.stations.set i s')[j]? = some t → r.stations[j]? = some t := by
    intro j t hij ht
    rwa [List.getElem?_set_ne (Ne.symm hij)] at ht
  -- The frame is gone with the task that had it, so no station that goes on holds one.
  refine ⟨h.roomy, h.input, h.reader, ?_, h.kind.update hkind, ?_, ?_, ?_, ?_⟩
  · exact Nat.le_of_lt (Nat.lt_of_lt_of_eq hlt List.length_set.symm)
  · intro t ht
    rcases List.mem_or_eq_of_mem_set ht with ht | rfl
    · exact h.begun t ht
    · simp [hstopped]
  · intro j t ht
    by_cases hij : j = i
    · subst hij
      have hsame : s' = t := Option.some.inj ((List.getElem?_set_self hlt).symm.trans ht)
      simp [← hsame, Station.isStopped, hstopped]
    · rw [h.stopped j t (hother j t hij ht)]
      omega
  · intro j t ht hj
    rw [h.held j t (hother j t (by omega) ht) (by omega), hplace]
    simp [oneAt, show i ≠ j by omega]
  · intro j t ht hj hready
    refine h.resting j t (hother j t (by omega) ht) (by omega) ?_
    rw [hr]
    have hrest : j ∉ rest ++ woken := by simpa [passed, roused, Run.update, hr] using hready
    simp only [List.mem_append, not_or] at hrest
    simp [hrest.1, show j ≠ i by omega]

theorem rung (h : Holding kind running load r) (woken : List Nat) (ms : Nat) :
    Holding kind running load { r.roused woken with now := ms } :=
  ⟨h.roomy, h.input, h.reader, h.few, h.kind, h.begun, h.stopped, h.held,
    fun i s hs hi hready => h.resting i s hs hi fun hm => hready (List.mem_append_left woken hm)⟩

theorem hushed (h : Holding kind running load r) (i : Nat) :
    Holding kind running load (r.hushed i) :=
  ⟨h.roomy, h.input, h.reader, h.few, h.kind, h.begun, h.stopped, h.held, h.resting⟩

theorem cascading (h : Holding kind running load r) : r.Cascading := by
  refine ⟨h.input, fun i hi => ?_⟩
  rw [halted, List.getElem?_map] at hi ⊢
  obtain ⟨s, hs, hstopped⟩ := Option.map_eq_some_iff.mp hi
  have hle := (h.stopped i s hs).mp hstopped
  cases hn : r.stations[i + 1]? with
  | none => simp
  | some next => simp [(h.stopped (i + 1) next hn).mpr (Nat.le_succ_of_le hle)]

theorem carries (h : Holding kind running (oneAt place) r) {i : Nat} {s : Station σ}
    (hs : r.stations[i]? = some s) (hrunning : s.isStopped = false) (hheld : s.held ≠ 0) :
    place = some i ∧ s.held = 1 := by
  have hload := h.held i s hs (h.going hs hrunning)
  unfold oneAt at hload
  split at hload
  case isTrue hplace => exact ⟨hplace, hload⟩
  case isFalse => exact absurd hload hheld

theorem delivers (h : Holding kind running (oneAt place) r) {i : Nat} {s : Station σ}
    (hs : r.stations[i]? = some s) {f : Frame} {fs : List Frame} {atEnd : Bool}
    (htask : s.task = .delivering (f :: fs) atEnd) :
    i < running ∧ place = some i ∧ s.inbox = [] ∧ fs = [] := by
  have hrunning : s.isStopped = false := by simp [Station.isStopped, htask]
  obtain ⟨hplace, hheld⟩ := h.carries hs hrunning (by simp [Station.held, htask, Task.owed])
  have howed : s.inbox.length + (fs.length + 1) = 1 := by
    simpa [Station.held, htask, Task.owed] using hheld
  exact ⟨h.going hs hrunning, hplace, List.length_eq_zero_iff.mp (by omega),
    List.length_eq_zero_iff.mp (by omega)⟩

theorem not_full (h : Holding kind running (oneAt place) r) {i : Nat} {s : Station σ}
    (hs : r.stations[i]? = some s) {f : Frame} {fs : List Frame} {atEnd : Bool}
    (htask : s.task = .delivering (f :: fs) atEnd) : r.room i ≠ .full := by
  intro hfull
  obtain ⟨next, hn, hnext, hclogged⟩ : ∃ next, r.stations[i + 1]? = some next ∧
      next.isStopped = false ∧ r.capacity ≤ next.inbox.length :=
    (room_full_iff.mp hfull).resolve_left fun hlast => by simp [h.reader, Reader.admits] at hlast
  have hheld : next.held ≠ 0 := by
    have := h.roomy
    rw [Station.held]
    omega
  have hplace := (h.delivers hs htask).2.1
  have hnextPlace := (h.carries hn hnext hheld).1
  simp [hplace] at hnextPlace

theorem stay (h : Holding kind running (oneAt place) r) {i : Nat} {rest : List Nat} {s : Station σ}
    (hr : r.ready = i :: rest) (hs : r.stations[i]? = some s)
    (hstays : s.task = .stopped ∨ WaitsForRoom s ∧ r.room i = .full) :
    Holding kind running (oneAt place) { r with ready := rest } := by
  refine h.skip hr r.alarms fun t ht hlt => ?_
  obtain rfl : s = t := Option.some.inj (hs.symm.trans ht)
  rcases hstays with hstopped | ⟨⟨f, fs, atEnd, htask⟩, hfull⟩
  · have hle := (h.stopped i s hs).mp (by simp [Station.isStopped, hstopped])
    exact absurd hlt (Nat.not_lt.mpr hle)
  · exact absurd hfull (h.not_full hs htask)

theorem last (h : Holding kind running load r) {i : Nat} (hlt : i < running)
    (hclosed : r.room i = .closed) : running = i + 1 := by
  rcases room_closed hclosed with ⟨hn, _⟩ | ⟨next, hn, hstopped⟩
  · have := h.few
    have := List.getElem?_eq_none_iff.mp hn
    omega
  · have := (h.stopped (i + 1) next hn).mp hstopped
    omega

theorem hand (h : Holding kind running (oneAt place) r) {i : Nat} {s next : Station σ}
    (hi : i ∈ r.ready) (hs : r.stations[i]? = some s) {f : Frame} {fs : List Frame} {atEnd : Bool}
    (htask : s.task = .delivering (f :: fs) atEnd) (hn : r.stations[i + 1]? = some next)
    (hlt : i + 1 < running) {woken : List Nat} (hwoken : i + 1 ∈ r.ready ++ woken) :
    Holding kind running (oneAt (some (i + 1)))
      (((r.update (i + 1) { next with inbox := next.inbox ++ [f] }).update i
        { s with task := .delivering fs atEnd }).roused woken) := by
  obtain ⟨_, rfl, hinbox, rfl⟩ := h.delivers hs htask
  have hjoined := h.join hn hlt f hwoken
  have hs' : (r.update (i + 1) { next with inbox := next.inbox ++ [f] }).stations[i]? = some s := by
    simpa [Run.update, List.getElem?_set_ne] using hs
  have hheld : Station.held { s with task := .delivering [] atEnd } = oneAt (some (i + 1)) i := by
    simp [Station.held, hinbox, Task.owed, oneAt]
  have hleft := hjoined.update { s with task := .delivering [] atEnd } (oneAt (some (i + 1))) []
    r.world hs' (List.mem_append_left _ (List.mem_append_left woken hi)) (h.kind i s hs) (by simp)
    (by simp [Station.isStopped, htask]) hheld fun j hj => by simp [oneAt, Ne.symm hj]
  rwa [roused_nil] at hleft

theorem entry_eq (h : Holding kind running (oneAt none) r) :
    r.entry = if 0 < running then .accepted else .closed := by
  cases hs : r.stations[0]? with
  | none =>
    have hfew := h.few
    have hnone := List.getElem?_eq_none_iff.mp hs
    rw [entry, hs, if_neg (by omega)]
  | some s =>
    have hstopped := h.stopped 0 s hs
    by_cases hrunning : 0 < running
    · have hheld := h.held 0 s hs hrunning
      have hempty : s.inbox.length = 0 := by
        simp only [Station.held, oneAt] at hheld
        simp at hheld
        simp [hheld.1]
      have hroomy := h.roomy
      have hgoing : s.isStopped = false := by
        cases hb : s.isStopped with
        | false => rfl
        | true => exact absurd (hstopped.mp hb) (by omega)
      rw [if_pos hrunning]
      exact entry_accepted_iff.mpr ⟨s, hs, h.input, hgoing, by omega⟩
    · have hclosed : s.admits r.capacity = .closed :=
        admits_closed_iff.mpr (hstopped.mpr (by omega))
      simp only [entry, hs, h.input, if_true, hclosed, if_neg hrunning]

end Holding

def Spending (kind : σ → Prop) (n : Nat) (r : Run σ ω) : Prop :=
  (∃ k ≤ n, Holding kind (n + 1) (oneAt (some k)) r) ∨ Holding kind n (oneAt none) r

theorem Spending.spent {kind : σ → Prop} {n : Nat} {r : Run σ ω} (h : Spending kind n r)
    (hr : r.ready = []) :
    Holding kind n (oneAt none) r := by
  rcases h with ⟨k, hk, h⟩ | h
  · -- The station that has the frame would be at rest without one.
    exfalso
    have hlt := Nat.lt_succ_of_le hk
    obtain ⟨s, hs⟩ : ∃ s, r.stations[k]? = some s :=
      ⟨_, List.getElem?_eq_getElem (Nat.lt_of_lt_of_le hlt h.few)⟩
    obtain ⟨htask, hinbox⟩ := h.resting k s hs hlt (by simp [hr])
    have hheld := h.held k s hs hlt
    simp [Station.held, htask, hinbox, Task.owed, oneAt] at hheld
  · exact h

end Run

variable [Processor σ ω]

/-- Stages of this kind have no deadline and make one frame of each that they take, be it an error.
No call changes the kind. -/
structure OneForOne (kind : σ → Prop) : Prop where
  lasting : Run.Lasting fun _ => kind
  timeless : ∀ s, kind s → Processor.deadline s = none
  single : ∀ s (w : ω) c now f, kind s →
    (Run.emitted s (Processor.process s w c now f).result).length = 1

namespace Run.Holding

variable {kind : σ → Prop} {running : Nat} {place : Option Nat} {r v : Run σ ω}

theorem take (hone : OneForOne kind) (h : Holding kind running (oneAt place) r) {i : Nat}
    {s : Station σ} (hi : i ∈ r.ready) (hs : r.stations[i]? = some s) (htask : s.task = .waiting)
    {f : Frame} {fs : List Frame} (hf : s.inbox = f :: fs) (woken : List Nat) :
    Holding kind running (oneAt place)
      (({ r with world := (Processor.process s.stage r.world s.conversation r.time f).world }.update
        i (called s (Processor.process s.stage r.world s.conversation r.time f) fs
          f.isEndOfStream)).roused woken) := by
  have hmine := h.kind i s hs
  obtain ⟨hcarrier, hheld⟩ := h.carries hs (by simp [Station.isStopped, htask])
    (by simp [Station.held, hf])
  have hempty : fs.length = 0 := by simpa [Station.held, htask, hf, Task.owed] using hheld
  have hsingle := hone.single s.stage r.world s.conversation r.time f hmine
  apply h.update _ (oneAt place) woken _ hs (List.mem_append_left woken hi)
    (hone.lasting.process i _ _ _ _ _ hmine)
  · simp [called]
  · simp [called, Station.isStopped, htask]
  · simp [Station.held, called, Task.owed, hempty, hsingle, oneAt, hcarrier]
  · exact fun _ _ => rfl

theorem finish (hone : OneForOne kind) (h : Holding kind running (oneAt place) r) {i : Nat}
    {s : Station σ} (hi : i ∈ r.ready) (hs : r.stations[i]? = some s) {atEnd : Bool}
    (htask : s.task = .delivering [] atEnd) :
    Holding kind running (oneAt place)
      ({ r with world := (r.stopped s atEnd).world }.update i
        (told s (r.stopped s atEnd) .waiting)) := by
  have hheld : s.held = oneAt place i :=
    h.held i s hs (h.going hs (by simp [Station.isStopped, htask]))
  have hupdate := h.update (told s (r.stopped s atEnd) .waiting) (oneAt place) []
    (r.stopped s atEnd).world hs (List.mem_append_left [] hi)
    (hone.lasting.stopped (i := i) (h.kind i s hs) atEnd) (by simp [told])
    (by simp [told, Station.isStopped, htask])
    (by rw [← hheld]; simp [told, Station.held, htask, Task.owed]) (fun _ _ => rfl)
  rwa [roused_nil] at hupdate

/-- A move brings the frame on its way one station further, or ends the task that has it. -/
theorem moves (hone : OneForOne kind) (h : Holding kind running (oneAt place) r)
    (hplace : ∀ k ∈ place, k < running) {i : Nat} {rest : List Nat} {s : Station σ} {goesOn : Bool}
    (hr : r.ready = i :: rest) (hs : r.stations[i]? = some s) (hm : Moves r i s v goesOn) :
    (∃ place', place'.isSome = place.isSome ∧ (∀ k ∈ place', k < running) ∧
        Holding kind running (oneAt place') (v.passed goesOn)) ∨
      running = i + 1 ∧ place = some i ∧ Holding kind i (oneAt none) (v.passed goesOn) := by
  have hi : i ∈ r.ready := hr ▸ List.mem_cons_self
  -- A station that takes or delivers a frame has the only one, so the next has room for it.
  cases hm with
  | stays hstays =>
    exact .inl ⟨place, rfl, hplace, by simpa [passed, hr] using h.stay hr hs hstays⟩
  | sleeps htask hf =>
    have hskip := h.skip hr
      (r.alarms ++ (Processor.deadline s.stage).toList.map fun d => (d.tick, i)) fun t ht _ => by
        obtain rfl : s = t := Option.some.inj (hs.symm.trans ht)
        exact ⟨htask, hf⟩
    exact .inl ⟨place, rfl, hplace, by simpa [passed, hr] using hskip⟩
  | begins htask => exact absurd htask (h.begun s (List.mem_of_getElem? hs))
  | takes htask hf => exact .inl ⟨place, rfl, hplace, h.take hone hi hs htask hf _⟩
  | expires htask hf he hd =>
    obtain ⟨d, hd, _⟩ := hd
    rw [hone.timeless s.stage (h.kind i s hs)] at hd
    cases hd
  | hands htask hn hnext _ hw =>
    have hcarrier : place = some i := (h.delivers hs htask).2.1
    have hlt := h.going hn hnext
    have hhanded := h.hand hi hs htask hn hlt (hw.awake _ rfl)
    exact .inl ⟨some (i + 1), by simp [hcarrier], by simpa using hlt, hhanded⟩
  | emits htask hn hopen =>
    rw [h.reader] at hopen
    cases hopen
  | returns htask => exact .inl ⟨place, rfl, hplace, h.finish hone hi hs htask⟩
  | @halts atEnd woken hends =>
    rcases hends with ⟨htask, _, hended, _⟩ | ⟨⟨f, fs, htask⟩, hclosed⟩
    · rw [h.cascading.input_goes_on hs (by simp [Station.isStopped, htask])] at hended
      cases hended
    · obtain ⟨hlt, hcarrier, _⟩ := h.delivers hs htask
      have hlast := h.last hlt hclosed
      refine .inr ⟨hlast, hcarrier, ?_⟩
      exact h.halt hr hs hlast hcarrier (hone.lasting.stopped (i := i) (h.kind i s hs) atEnd) rfl
        woken _

theorem step (hone : OneForOne kind) (h : Holding kind running (oneAt place) r)
    (hplace : ∀ k ∈ place, k < running) (hstep : r.step = some v) :
    (∃ place', place'.isSome = place.isSome ∧ (∀ k ∈ place', k < running) ∧
        Holding kind running (oneAt place') v) ∨
      ∃ n, running = n + 1 ∧ place = some n ∧ Holding kind n (oneAt none) v := by
  obtain ⟨i, rest, hr, ⟨hn, rfl⟩ | ⟨s, v, goesOn, hs, hm, rfl⟩⟩ := step_cases hstep
  · refine .inl ⟨place, rfl, hplace, (h.hushed i).skip hr _ ?_⟩
    intro s hs
    exact absurd (hn.symm.trans hs) (by simp)
  · exact ((h.hushed i).moves hone hplace hr hs hm).imp_right fun h => ⟨i, h⟩

theorem step_none (hone : OneForOne kind) (h : Holding kind running (oneAt none) r)
    (hstep : r.step = some v) : Holding kind running (oneAt none) v := by
  rcases h.step hone (by simp) hstep with ⟨place, hnone, _, hv⟩ | ⟨_, _, hnone, _⟩
  · obtain rfl : place = none := by simpa using hnone
    exact hv
  · cases hnone

end Run.Holding

namespace Run

variable {kind : σ → Prop} {n : Nat} {r v : Run σ ω}

theorem Spending.step (hone : OneForOne kind) (h : Spending kind n r) (hstep : r.step = some v) :
    Spending kind n v := by
  rcases h with ⟨k, hk, h⟩ | h
  · rcases h.step hone (by simpa using Nat.lt_succ_of_le hk) hstep with
      ⟨place, hsome, hplace, hv⟩ | ⟨m, hm, _, hv⟩
    · obtain ⟨j, rfl⟩ : ∃ j, place = some j := Option.isSome_iff_exists.mp hsome
      exact .inl ⟨j, Nat.le_of_lt_succ (hplace j rfl), hv⟩
    · obtain rfl : n = m := Nat.succ.inj hm
      exact .inr hv
  · exact .inr (h.step_none hone hstep)

namespace Holding

theorem send [Tame σ] (hone : OneForOne kind) (h : Holding kind (n + 1) (oneAt none) r)
    (f : Frame) : Holding kind n (oneAt none) (r.send f) := by
  have hentry : r.entry = .accepted := h.entry_eq.trans (if_pos (Nat.succ_pos n))
  obtain ⟨s, hs, _⟩ := entry_accepted_iff.mp hentry
  obtain ⟨woken, hw, hwakes⟩ := (r.update 0 { s with inbox := s.inbox ++ [f] }).wake_eq 0
  have hjoined := h.join hs (Nat.succ_pos n) f (hwakes.awake 0 rfl)
  have hload : (fun j => oneAt none j + oneAt (some 0) j) = oneAt (some 0) := by
    funext j
    simp [oneAt]
  have hpost : r.post f = (r.update 0 { s with inbox := s.inbox ++ [f] }).roused woken := by
    simp only [post, hentry, posted, hs, hw]
  rw [hload, ← hpost] at hjoined
  have hspending : Spending kind n (r.send f) :=
    settle_keeps (fun _ _ hr hstep => hr.step hone hstep) (.inl ⟨0, Nat.zero_le n, hjoined⟩)
  exact hspending.spent (settle_ready _)

theorem refuse (hone : OneForOne kind) (h : Holding kind 0 (oneAt none) r) (f : Frame) :
    Holding kind 0 (oneAt none) (r.send f) := by
  have hpost : r.post f = r := by simp [post, h.entry_eq]
  have hsettled : Holding kind 0 (oneAt none) r.settle :=
    settle_keeps (fun _ _ h hstep => h.step_none hone hstep) h
  rwa [Run.send, hpost]

/-- Each frame that is sent ends one more task, until none is left. -/
theorem perform [Tame σ] (hone : OneForOne kind) (h : Holding kind n (oneAt none) r)
    {deeds : List Deed} (hdeeds : ∀ d ∈ deeds, d.isPaced = true) :
    Holding kind (n - (deeds.filterMap Deed.frame).length) (oneAt none) (r.perform deeds) := by
  induction deeds generalizing n r with
  | nil => exact h
  | cons d deeds ih =>
    have hlater := fun e he => hdeeds e (List.mem_cons_of_mem d he)
    have hd := hdeeds d List.mem_cons_self
    cases d with
    | pause ms =>
      have hslept : Holding kind n (oneAt none) (r.sleep ms) :=
        sleep_keeps (fun _ _ h hstep => h.step_none hone hstep)
          (fun _ woken ms h => h.rung woken ms) h ms
      exact ih hslept hlater
    | send f =>
      have hcount : (List.filterMap Deed.frame (.send f :: deeds)).length =
          (deeds.filterMap Deed.frame).length + 1 := rfl
      rw [hcount]
      cases n with
      | zero =>
        -- No task is left to end.
        have hrefused := ih (h.refuse hone f) hlater
        rwa [Nat.zero_sub] at hrefused ⊢
      | succ n =>
        have hsent := ih (h.send hone f) hlater
        rwa [Nat.succ_sub_succ]
    | _ => cases hd

end Holding

end Run

end BargeIn.Pipeline
