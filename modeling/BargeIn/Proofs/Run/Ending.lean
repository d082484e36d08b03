import Mathlib.Control.Monad.Basic
import BargeIn.Proofs.Run.Accounts

/-!
# The end of the stream

The end of the stream goes through a chain as any frame does, and each stage that takes it is told
to stop, also if it fails. But a stage that fails sends an error and nothing else, so the stages
behind one that fails at the end hear nothing of it.
-/

set_option autoImplicit false

namespace BargeIn.Pipeline

variable {σ ω : Type}

/-! ## Records from here on -/

def Station.recorded (s : Station σ) : Station (Recorder σ) :=
  ⟨{ stage := s.stage }, s.conversation, s.inbox, s.task⟩

def Run.recorded (r : Run σ ω) : Run (Recorder σ) ω where
  stations := r.stations.map Station.recorded
  world := r.world
  capacity := r.capacity
  now := r.now
  inputOpen := r.inputOpen
  reader := r.reader
  ready := r.ready
  alarms := r.alarms
  output := r.output

namespace Run

theorem recorded_plain (r : Run σ ω) : r.recorded.plain = r := by
  have hstations : (r.stations.map Station.recorded).map Station.plain = r.stations := by
    rw [List.map_map]
    exact List.map_id r.stations
  obtain ⟨stations, world, capacity, now, inputOpen, reader, ready, alarms, output⟩ := r
  simp only [plain, recorded] at hstations ⊢
  rw [hstations]

theorem recorded_station {r : Run σ ω} {i : Nat} {s : Station (Recorder σ)}
    (hs : r.recorded.stations[i]? = some s) :
    ∃ t, r.stations[i]? = some t ∧ s = t.recorded := by
  rw [recorded, List.getElem?_map] at hs
  obtain ⟨t, ht, rfl⟩ := Option.map_eq_some_iff.mp hs
  exact ⟨t, ht, rfl⟩

variable [Processor σ ω]

theorem Flowing.recorded {r : Run σ ω} (h : r.Flowing) : r.recorded.Flowing where
  roomy := h.roomy
  input := h.input
  reader := h.reader
  running s hs := by
    obtain ⟨t, ht, rfl⟩ := List.mem_map.mp hs
    exact h.running t ht
  blocked i s hs hi := by
    obtain ⟨t, ht, rfl⟩ := recorded_station hs
    have hroom : r.recorded.room i = r.room i := by
      rw [room, room, Run.recorded, List.getElem?_map]
      cases r.stations[i + 1]? <;> rfl
    rw [hroom]
    exact h.blocked i t ht hi
  alarmed a ha := by
    obtain ⟨t, d, ht, hd, htick⟩ := h.alarmed a ha
    refine ⟨t.recorded, d, ?_, hd, htick⟩
    rw [Run.recorded, List.getElem?_map, ht]
    rfl

theorem unrecorded_accounts {stations : List (Station σ)} (hrest : ∀ s ∈ stations, AtRest s) :
    Accounts [] (stations.map Station.recorded) [] := by
  induction stations with
  | nil => rfl
  | cons s later ih =>
    obtain ⟨htask, hinbox⟩ := hrest s List.mem_cons_self
    refine ⟨[], ⟨?_, ?_⟩, ih fun t ht => hrest t (List.mem_cons_of_mem s ht)⟩
    · exact hinbox.symm
    · simp [Station.recorded, htask, Task.owed, Recorder.sent]

theorem send_relays [Tame σ] {r : Run σ ω} (h : r.Steady) (hstations : r.stations ≠ [])
    (f : Frame) :
    let v := r.recorded.send f
    (∀ s ∈ v.stations, AtRest s) ∧ ∃ out, v.output = r.output ++ out ∧
      Relays [f] (v.stations.map (·.stage)) (out.map (·.2)) := by
  intro v
  have hrecorded : r.recorded.Steady := ⟨h.flowing.recorded, h.idle, h.reader⟩
  have hsome : r.recorded.stations ≠ [] := by simpa [recorded] using hstations
  obtain ⟨s, hs⟩ : ∃ s, r.recorded.stations[0]? = some s :=
    ⟨_, List.getElem?_eq_getElem (List.length_pos_iff.mpr hsome)⟩
  have hsend : v = (r.recorded.posted f).settle := hrecorded.send_eq hsome f
  have hjoined : ∃ out, (r.recorded.posted f).output = r.output ++ out ∧
      Accounts [f] (r.recorded.posted f).stations (out.map (·.2)) := by
    obtain ⟨woken, hposted⟩ := posted_eq hs f
    rw [hposted]
    exact ⟨[], (List.append_nil _).symm, (unrecorded_accounts h.atRest).join hs f⟩
  -- The records begin empty, so they account for this frame and for what has come out since.
  have hkept : v.Flowing ∧ ∃ out, v.output = r.output ++ out ∧
      Accounts [f] v.stations (out.map (·.2)) := by
    rw [hsend]
    apply settle_keeps (P := fun v => v.Flowing ∧ ∃ out, v.output = r.output ++ out ∧
      Accounts [f] v.stations (out.map (·.2))) _ ⟨hrecorded.flowing.posted f, hjoined⟩
    rintro u u' ⟨hu, out, hout, haccounts⟩ hstep
    obtain ⟨news, hnews, hmoved⟩ := step_accounts haccounts hu hstep
    rw [← List.map_append] at hmoved
    exact ⟨hu.step hstep, out ++ news, by rw [hnews, hout, List.append_assoc], hmoved⟩
  obtain ⟨_, out, hout, haccounts⟩ := hkept
  have hlast : v.Steady := hrecorded.send f
  exact ⟨hlast.atRest, out, hout, haccounts.relays hlast.atRest⟩

end Run

/-! ## Stages are told to stop -/

namespace Entry

def isStop : Entry σ → Bool
  | .stopped _ => true
  | _ => false

def isEnd (e : Entry σ) : Bool := e.frame.any (·.isEndOfStream)

def keepsEnd : Entry σ → Bool
  | .took _ f (.ok out) => !f.isEndOfStream || out.contains .endOfStream
  | _ => true

/-- The stage fails on the end of the stream. -/
def losesEnd : Entry σ → Bool
  | .took _ f (.error _) => f.isEndOfStream
  | _ => false

end Entry

def Recorder.stops (s : Recorder σ) : Nat := s.record.countP Entry.isStop

def Recorder.ends (s : Recorder σ) : Nat := s.record.countP Entry.isEnd

/-- The stage has been told to stop for each end of the stream, unless it is still to deliver what
came of the last. -/
def Station.Heeds (s : Station (Recorder σ)) : Prop :=
  s.stage.stops + s.task.atEnd.toNat = s.stage.ends

theorem Station.Heeds.call {s : Station (Recorder σ)} (h : s.Heeds) {entry : Entry σ} {task : Task}
    (hcall : entry.isStop.toNat + task.atEnd.toNat = s.task.atEnd.toNat + entry.isEnd.toNat)
    (stage : σ) (conversation : Conversation) (inbox : List Frame) :
    Station.Heeds ⟨⟨stage, s.stage.record ++ [entry]⟩, conversation, inbox, task⟩ := by
  have hadd : ∀ p : Entry σ → Bool,
      (s.stage.record ++ [entry]).countP p = s.stage.record.countP p + (p entry).toNat := by
    intro p
    rw [List.countP_append]
    cases hp : p entry <;> simp [hp]
  unfold Station.Heeds Recorder.stops Recorder.ends at h ⊢
  rw [hadd, hadd]
  show _ + entry.isStop.toNat + task.atEnd.toNat = _
  omega

namespace Run

variable [Processor σ ω]

theorem heeds_stopped {r : Run (Recorder σ) ω} {s : Station (Recorder σ)} (h : s.Heeds)
    {atEnd : Bool} (hend : s.task.atEnd = atEnd) {task : Task} (htask : task.atEnd = false) :
    (told s (r.stopped s atEnd) task).Heeds := by
  cases atEnd with
  | true => exact h.call (by simp [Entry.isStop, Entry.isEnd, Entry.frame, hend, htask]) _ _ _
  | false =>
    unfold Station.Heeds at h ⊢
    rw [hend] at h
    show s.stage.stops + task.atEnd.toNat = s.stage.ends
    rw [htask]
    exact h

theorem moves_heeds {r v : Run (Recorder σ) ω} (h : ∀ s ∈ r.stations, s.Heeds) {i : Nat}
    {s : Station (Recorder σ)} (hs : r.stations[i]? = some s) {goesOn : Bool}
    (hm : Moves r i s v goesOn) : ∀ s ∈ v.stations, s.Heeds := by
  have hmine := h s (List.mem_of_getElem? hs)
  have hset : ∀ {stations : List (Station (Recorder σ))} {j t}, (∀ s ∈ stations, s.Heeds) →
      Station.Heeds t → ∀ s ∈ stations.set j t, s.Heeds := by
    intro stations j t hall ht u hu
    rcases List.mem_or_eq_of_mem_set hu with hu | rfl
    · exact hall u hu
    · exact ht
  cases hm with
  | stays | sleeps => exact h
  | begins ht | takes ht | expires ht =>
    exact hset h (hmine.call (by simp [Entry.isStop, Entry.isEnd, Entry.frame, ht, Task.atEnd]) _ _ _)
  | @hands f fs atEnd next woken ht hn =>
    have hnext : Station.Heeds { next with inbox := next.inbox ++ [f] } :=
      h next (List.mem_of_getElem? hn)
    refine hset (hset h hnext) ?_
    simpa [Station.Heeds, ht, Task.atEnd] using hmine
  | emits ht => exact hset h (by simpa [Station.Heeds, ht, Task.atEnd] using hmine)
  | returns ht => exact hset h (heeds_stopped hmine (by rw [ht]; rfl) rfl)
  | halts hends =>
    refine hset h (heeds_stopped hmine ?_ rfl)
    rcases hends with ⟨ht, _, _, rfl⟩ | ⟨⟨f, fs, ht⟩, _⟩ <;> rw [ht] <;> rfl

theorem heeds_persists :
    Persists fun _ (r : Run (Recorder σ) ω) => ∀ s ∈ r.stations, s.Heeds := by
  apply Persists.ofStations (Q := fun stations => ∀ s ∈ stations, Station.Heeds s)
  · exact fun r v i s goesOn h hs hm => moves_heeds h hs hm
  · intro r s f h hs _ t ht
    rcases List.mem_or_eq_of_mem_set ht with ht | rfl
    · exact h t ht
    · exact h s (List.mem_of_getElem? hs)

end Run

/-! ## The end goes through the chain -/

theorem Recorder.sends_end {s : Recorder σ} [Processor σ ω] (htakes : .endOfStream ∈ s.received)
    (hkeeps : s.record.all Entry.keepsEnd) (hnever : ¬s.record.any Entry.losesEnd) :
    .endOfStream ∈ s.sent := by
  obtain ⟨e, he, hframe⟩ := List.mem_filterMap.mp htakes
  have hkept := List.all_eq_true.mp hkeeps e he
  have hwhole : e.losesEnd ≠ true := fun hlost => hnever (List.any_eq_true.mpr ⟨e, he, hlost⟩)
  refine List.mem_flatMap.mpr ⟨e, he, ?_⟩
  cases e with
  | took stage f result =>
    obtain rfl : f = .endOfStream := Option.some.inj hframe
    cases result with
    | ok out =>
      show Frame.endOfStream ∈ out
      simpa [Entry.keepsEnd, Frame.isEndOfStream] using hkept
    | error fault => simp [Entry.losesEnd, Frame.isEndOfStream] at hwhole
  | _ => cases hframe

theorem Recorder.ends_pos {s : Recorder σ} (htakes : .endOfStream ∈ s.received) : 0 < s.ends := by
  obtain ⟨e, he, hframe⟩ := List.mem_filterMap.mp htakes
  exact List.countP_pos_iff.mpr ⟨e, he, by simp [Entry.isEnd, hframe, Frame.isEndOfStream]⟩

/-- Stages that send the end of the stream on bring it to those behind them. -/
theorem Relays.brings_end [Processor σ ω] {incoming outgoing : List Frame}
    {earlier later : List (Recorder σ)} (h : Relays incoming (earlier ++ later) outgoing)
    (hend : .endOfStream ∈ incoming) (hkeep : ∀ s ∈ earlier, s.record.all Entry.keepsEnd)
    (hnever : ∀ s ∈ earlier, ¬s.record.any Entry.losesEnd) :
    ∃ between, .endOfStream ∈ between ∧ Relays between later outgoing := by
  induction earlier generalizing incoming with
  | nil => exact ⟨incoming, hend, h⟩
  | cons s earlier ih =>
    obtain ⟨hreceived, hlater⟩ := h
    have hsent : .endOfStream ∈ s.sent :=
      s.sends_end (hreceived ▸ hend) (hkeep s List.mem_cons_self) (hnever s List.mem_cons_self)
    exact ih hlater hsent (fun t ht => hkeep t (List.mem_cons_of_mem s ht))
      fun t ht => hnever t (List.mem_cons_of_mem s ht)

theorem Relays.ends_at [Processor σ ω] {incoming outgoing : List Frame}
    {stages : List (Recorder σ)} (h : Relays incoming stages outgoing)
    (hend : .endOfStream ∈ incoming) (hkeep : ∀ s ∈ stages, s.record.all Entry.keepsEnd)
    {earlier later : List (Recorder σ)} {s : Recorder σ} (hstages : stages = earlier ++ s :: later)
    (hnever : ∀ t ∈ earlier, ¬t.record.any Entry.losesEnd) : 0 < s.ends := by
  subst hstages
  obtain ⟨between, hbetween, hreceived, _⟩ :=
    h.brings_end hend (fun t ht => hkeep t (List.mem_append_left _ ht)) hnever
  exact Recorder.ends_pos (hreceived ▸ hbetween)

theorem Relays.end_comes_out [Processor σ ω] {incoming outgoing : List Frame}
    {stages : List (Recorder σ)} (h : Relays incoming stages outgoing)
    (hend : .endOfStream ∈ incoming) (hkeep : ∀ s ∈ stages, s.record.all Entry.keepsEnd)
    (hnever : ∀ s ∈ stages, ¬s.record.any Entry.losesEnd) : .endOfStream ∈ outgoing := by
  rw [← List.append_nil stages] at h
  obtain ⟨between, hbetween, hout⟩ := h.brings_end hend hkeep hnever
  exact hout ▸ hbetween

/-- When the end of the stream is sent to a chain that has come to rest, every stage that takes it
is told to stop, also if it fails on it. If the calls that succeed pass the end on, all stages up to
the first that fails on it take it, and it comes out of the chain if none does. Other calls may
fail. -/
theorem end_heard [Processor σ ω] (htame : Tame σ) (chain : Chain σ ω) (hchain : chain.stages ≠ [])
    (conversation : Conversation) {capacity : Nat} (hcapacity : 0 < capacity)
    (before : List Deed) (hopen : ∀ d ∈ before, d.isOpen = true) :
    let first := Run.start chain conversation capacity
    let r := first.perform before
    let v := r.recorded.send .endOfStream
    let stages := v.stations.map (·.stage)
    ((∀ d ∈ before, d.isPaced = true) → r.ready = [] ∧ r.reader = .prompt) ∧
    (r.ready = [] → r.reader = .prompt →
      v.plain = r.send .endOfStream ∧ v.ready = [] ∧ (∀ s ∈ stages, s.stops = s.ends) ∧
      ∃ out, v.output = r.output ++ out ∧ Relays [.endOfStream] stages (out.map (·.2)) ∧
        ((∀ s ∈ stages, s.record.all Entry.keepsEnd) →
          (∀ earlier s later, stages = earlier ++ s :: later →
            (∀ t ∈ earlier, ¬t.record.any Entry.losesEnd) → 0 < s.stops) ∧
          ((∀ s ∈ stages, ¬s.record.any Entry.losesEnd) → .endOfStream ∈ out.map (·.2)))) := by
  intro first r v stages
  have hfirst : first.Steady := .start chain conversation hcapacity
  refine ⟨fun hpaced => ⟨(hfirst.perform hpaced).idle, (hfirst.perform hpaced).reader⟩, ?_⟩
  intro hready hreader
  have hflowing : r.Flowing := Run.Flowing.persists.perform (t := []) hfirst.flowing hopen
  have hsteady : r.Steady := ⟨hflowing, hready, hreader⟩
  have hstations : r.stations ≠ [] := by
    have hlength : r.stations.length = chain.stages.length :=
      (Run.length_persists _).perform (t := []) (Run.start_length chain conversation capacity)
        hopen
    intro hnil
    rw [hnil] at hlength
    exact hchain (List.length_eq_zero_iff.mp hlength.symm)
  obtain ⟨hrest, out, hout, hrelays⟩ := Run.send_relays hsteady hstations .endOfStream
  have hheeds : ∀ s ∈ v.stations, s.Heeds := by
    apply Run.heeds_persists.deed (t := []) (d := .send .endOfStream) _ rfl
    intro s hs
    obtain ⟨t, ht, rfl⟩ := List.mem_map.mp hs
    simp [Station.Heeds, Station.recorded, Recorder.stops, Recorder.ends, (hsteady.atRest t ht).1,
      Task.atEnd]
  have htold : ∀ s ∈ stages, s.stops = s.ends := by
    intro s hs
    obtain ⟨t, ht, rfl⟩ := List.mem_map.mp hs
    have hall := hheeds t ht
    rw [Station.Heeds, (hrest t ht).1] at hall
    exact hall
  have hsent : v.plain = r.send .endOfStream := by
    have hplain := Run.plain_perform r.recorded [.send .endOfStream]
    rwa [Run.recorded_plain] at hplain
  refine ⟨hsent, Run.settle_ready _, htold, out, hout, hrelays, fun hkeep => ⟨?_, ?_⟩⟩
  · intro earlier s later hsplit hnever
    rw [htold s (by simp [hsplit])]
    exact hrelays.ends_at List.mem_cons_self hkeep hsplit hnever
  · exact hrelays.end_comes_out List.mem_cons_self hkeep

/-- Stages fail at the start, when they are told to stop, at a deadline and on another frame. -/
theorem end_heard_twice :
    let first : Rule :=
      { name := "first"
        reaction := fun f => if f.kind = "transcript" then .fail else .double
        alarmAfter := some 5
        alarmFails := true
        startFails := true
        stopFails := true }
    let second : Rule :=
      { name := "second", reaction := fun f => if f.kind = "error" then .fail else .keep }
    let chain : Chain Stage Shared :=
      ⟨"failing", [.rule first, .rule second, .relay "third"], ⟨⟨[], 0, none⟩, []⟩⟩
    let before : List Deed := [.read (some 0), .post (.transcript { text := "Hello", receivedAt := ⟨0⟩ }),
      .turn, .defer, .pause 7, .read none, .pause 0]
    let r := (Run.start chain {} 1).perform before
    let v := r.recorded.send .endOfStream
    let stages := v.stations.map (·.stage)
    Tame Stage ∧ chain.stages ≠ [] ∧ 0 < 1 ∧ (∀ d ∈ before, d.isOpen = true) ∧
      (∀ s ∈ stages, s.record.all Entry.keepsEnd) ∧
      (∀ s ∈ stages, ¬s.record.any Entry.losesEnd) ∧ (∀ s ∈ stages, 0 < s.stops) ∧
      (∃ out, v.output = r.output ++ out ∧ .endOfStream ∈ out.map (·.2)) ∧
      stages.map Recorder.stops = [1, 2, 2] ∧
      v.output.map (·.2.kind) = ["error", "error", "end_of_stream", "end_of_stream"] := by
  intro first second chain before r v stages
  have hchain : chain.stages ≠ [] := by simp [chain]
  have hcapacity : 0 < 1 := by decide
  have hkeep : ∀ s ∈ stages, s.record.all Entry.keepsEnd := by decide +kernel
  have hnever : ∀ s ∈ stages, ¬s.record.any Entry.losesEnd := by decide +kernel
  have hopen : ∀ d ∈ before, d.isOpen = true := by decide
  obtain ⟨_, hends⟩ := end_heard inferInstance chain hchain {} hcapacity before hopen
  obtain ⟨_, _, _, out, hout, _, hreaches⟩ := hends (by decide +kernel) (by decide +kernel)
  obtain ⟨htold, hcomes⟩ := hreaches hkeep
  refine ⟨inferInstance, hchain, hcapacity, hopen, hkeep, hnever, ?_, ⟨out, hout, hcomes hnever⟩,
    by decide +kernel, by decide +kernel⟩
  intro s hs
  obtain ⟨earlier, later, hsplit⟩ := List.append_of_mem hs
  refine htold earlier s later hsplit fun t ht => hnever t ?_
  rw [show stages = _ from hsplit]
  exact List.mem_append_left _ ht

/-- Every stage passes the end of the stream on unless it fails, but where the first one fails on
it, the second is never told to stop, and the end does not come out of the chain. -/
theorem end_unheard :
    let first : Rule :=
      { name := "first", reaction := fun f => if f.kind = "end_of_stream" then .fail else .keep }
    let chain : Chain Stage Shared :=
      ⟨"failing", [.rule first, .relay "second"], ⟨⟨[], 0, none⟩, []⟩⟩
    let v := (Run.start chain {} 1).recorded.send .endOfStream
    (∀ s ∈ chain.stages, ∀ w c now out,
      (Processor.process s w c now .endOfStream).result = .ok out → .endOfStream ∈ out) ∧
      v.reader = .prompt ∧ v.ready = [] ∧ v.stations.map (·.stage.stops) = [1, 0] ∧
      v.output = [(0, .error "first" "Invalid configuration for first: end_of_stream" true)] := by
  intro first chain v
  refine ⟨?_, by decide +kernel⟩
  intro s hs w c now out hout
  simp only [chain, List.mem_cons, List.not_mem_nil, or_false] at hs
  rcases hs with rfl | rfl
  · cases hout
  · cases hout
    exact List.mem_cons_self

end BargeIn.Pipeline
