import BargeIn.Proofs.Pipeline.Provenance
import BargeIn.Proofs.Run.Reach

/-!
# Deadlines that are served

A task serves its handler's deadline when the clock has reached it, and then it has passed for the
handler as well: the handler interrupts the agent and is left without a deadline. Only a further
wait for a confirmation sets one again, so no handler is woken more often than it has announced
that it waits.
-/

set_option autoImplicit false

namespace BargeIn

def Frame.isWait : Frame → Bool
  | .awaitingConfirmation _ => true
  | _ => false

namespace Pipeline

def Stage.isRule : Stage → Bool
  | .rule _ => true
  | _ => false

/-! ## Wakes and waits on record -/

section

variable {σ : Type}

def Entry.isWake : Entry σ → Bool
  | .served .. => true
  | _ => false

def Recorder.wakes (s : Recorder σ) : Nat :=
  s.record.countP Entry.isWake

def Source.countWaits (traced : List (Source × Frame)) : Nat :=
  traced.countP fun (source, f) => source = .handler && f.isWait

def Recorder.waits (s : Recorder σ) : Nat :=
  Source.countWaits s.traced

theorem Recorder.wakes_snoc (s : Recorder σ) (stage : σ) (e : Entry σ) :
    Recorder.wakes ⟨stage, s.record ++ [e]⟩ = s.wakes + e.isWake.toNat := by
  rw [wakes, wakes, List.countP_append, List.countP_singleton]
  cases e.isWake <;> rfl

theorem Recorder.waits_snoc (s : Recorder σ) (stage : σ) (e : Entry σ) :
    Recorder.waits ⟨stage, s.record ++ [e]⟩ = s.waits + Source.countWaits e.traced := by
  simp [waits, traced, Source.countWaits, List.countP_append]

theorem took_waits (stage : σ) (f : Frame) (out : List Frame) :
    Source.countWaits (Entry.took stage f (.ok out)).traced =
      ((Call.process f).generated out).countP Frame.isWait := by
  simp [Source.countWaits, Entry.traced, List.countP_append, List.countP_map, Function.comp_def]

end

/-! ## One call -/

def Stage.pending (stage : Stage) : Nat :=
  stage.deadline.isSome.toNat

theorem Turn.covered {timeout : Nat} {cause : Call} {state next : Option SpeechState}
    {out : List Frame} (h : Turn timeout cause state out next) :
    (next.bind (·.deadline)).isSome.toNat ≤
      (state.bind (·.deadline)).isSome.toNat + out.countP Frame.isWait := by
  cases h with
  | quiet => exact Nat.le_add_right _ _
  | wait | resume | atOnce | afterWait => simp [SpeechState.deadline, Frame.isWait]

theorem Listener.call_covered (l : Listener) (c : Call) :
    (l.call c).2.handler.deadline.isSome.toNat ≤
      l.handler.deadline.isSome.toNat + (c.generated (l.call c).1).countP Frame.isWait := by
  rw [Handler.deadline_eq, Handler.deadline_eq]
  cases hb : c.isBoundary with
  | false => exact (l.call_turn c hb).covered
  | true =>
    rcases (l.call_boundary c hb).2 with ⟨hstate, _⟩ | ⟨hstate, _⟩ <;> rw [hstate] <;>
      exact Nat.zero_le _

namespace Stage

variable {stage : Stage}

theorem process_covered (h : stage.isRule = false) (w : Shared) (c : Conversation)
    (now : Instant) (f : Frame) :
    (Processor.process stage w c now f).stage.isRule = false ∧
      (Processor.process stage w c now f).stage.pending ≤ stage.pending +
        Source.countWaits (Entry.took stage f (Processor.process stage w c now f).result).traced := by
  cases stage with
  | handler handler =>
    let l : Listener := ⟨handler.within w, w.suppressor, c⟩
    have hcovered := l.call_covered (.process f)
    refine ⟨rfl, ?_⟩
    have hresult : (Processor.process (Stage.handler handler) w c now f).result =
        .ok (l.call (.process f)).1 := rfl
    rw [hresult, took_waits]
    exact hcovered
  | filter => exact ⟨rfl, Nat.zero_le _⟩
  | relay name => exact ⟨rfl, Nat.zero_le _⟩
  | rule r => cases h

theorem told_pending (h : stage.isRule = false) (w : Shared) (c : Conversation)
    (now : Instant) :
    ((Processor.start stage w c now).stage.isRule = false ∧
        (Processor.start stage w c now).stage.pending = 0) ∧
      (Processor.stop stage w c now).stage.isRule = false ∧
        (Processor.stop stage w c now).stage.pending = 0 := by
  cases stage with
  | handler | filter | relay => exact ⟨⟨rfl, rfl⟩, rfl, rfl⟩
  | rule r => cases h

theorem expire_due (h : stage.isRule = false) (w : Shared) (c : Conversation) {now d : Instant}
    (hd : Processor.deadline stage = some d) (hle : d ≤ now) :
    ∃ handler, stage = .handler handler ∧
      (Processor.expire stage w c now).result = .ok [.interrupt .timeout none] ∧
      (Processor.expire stage w c now).stage.isRule = false ∧
      (Processor.expire stage w c now).stage.deadline = none := by
  cases stage with
  | handler handler =>
    obtain ⟨hout, hnone⟩ := (handler.within w).expire_due hd hle
    exact ⟨handler, rfl, congrArg Except.ok hout, rfl, hnone⟩
  | filter => cases hd
  | relay name => cases hd
  | rule r => cases h

end Stage

/-! ## Whole runs -/

/-- Each wake of the stage, and the deadline that it has, goes back to a wait of its own, and at
each wake it has interrupted the agent. -/
structure Recorder.Sparing (s : Recorder Stage) : Prop where
  kind : s.stage.isRule = false
  covered : s.wakes + s.stage.pending ≤ s.waits
  interrupts : ∀ e ∈ s.record, e.isWake = true → e.sent = [.interrupt .timeout none]

def Recorder.Fresh (s : Recorder Stage) : Prop :=
  s.stage.isRule = false ∧ s.record = []

namespace Recorder

variable {s : Recorder Stage}

theorem Sparing.call (h : s.Sparing) {stage : Stage} {e : Entry Stage}
    (hkind : stage.isRule = false)
    (hcovered : e.isWake.toNat + stage.pending ≤ s.stage.pending + Source.countWaits e.traced)
    (hinterrupts : e.isWake = true → e.sent = [.interrupt .timeout none]) :
    Recorder.Sparing ⟨stage, s.record ++ [e]⟩ := by
  refine ⟨hkind, ?_, ?_⟩
  · have hall := h.covered
    rw [wakes_snoc, waits_snoc]
    show s.wakes + e.isWake.toNat + stage.pending ≤ s.waits + Source.countWaits e.traced
    omega
  · intro d hd hwake
    rcases List.mem_append.mp hd with hd | hd
    · exact h.interrupts d hd hwake
    · obtain rfl := List.mem_singleton.mp hd
      exact hinterrupts hwake

theorem Fresh.call (h : s.Fresh) {stage : Stage} {e : Entry Stage} (hkind : stage.isRule = false)
    (hpending : stage.pending = 0) (hwake : e.isWake = false) :
    Recorder.Sparing ⟨stage, s.record ++ [e]⟩ := by
  rw [h.2]
  refine ⟨hkind, ?_, ?_⟩
  · simp [wakes, hwake, hpending]
  · simp [hwake]

end Recorder

theorem sparing_living : Run.Living (fun _ => Recorder.Fresh) fun _ => Recorder.Sparing where
  start i s w c now h := by
    have hkind : s.stage.isRule = false := h.elim (·.1) (·.kind)
    obtain ⟨⟨hstage, hpending⟩, _⟩ := Stage.told_pending hkind w c now
    rcases h with hfresh | hsparing
    · exact hfresh.call hstage hpending rfl
    · exact hsparing.call hstage (by simp [hpending, Entry.isWake]) nofun
  stop i s w c now h := by
    obtain ⟨_, hstage, hpending⟩ := Stage.told_pending h.kind w c now
    exact h.call hstage (by simp [hpending, Entry.isWake]) nofun
  process i s w c now f h := by
    obtain ⟨hstage, hcovered⟩ := Stage.process_covered h.kind w c now f
    exact h.call hstage (by simpa [Entry.isWake] using hcovered) nofun
  expire i s w c now d hd hle h := by
    obtain ⟨handler, _, hresult, hstage, hnone⟩ := Stage.expire_due h.kind w c hd hle
    have hwas : s.stage.pending = 1 := congrArg (·.isSome.toNat) hd
    have hleft : (Processor.expire s.stage w c now).stage.pending = 0 :=
      congrArg (·.isSome.toNat) hnone
    exact h.call hstage (by simp [Entry.isWake, hwas, hleft]) fun _ => by rw [hresult]; rfl

theorem sparing_reachable {chain : Chain Stage Shared}
    (hchain : ∀ s ∈ chain.stages, s.isRule = false) {conversation : Conversation} {capacity : Nat}
    {r : Run (Recorder Stage) Shared}
    (h : Run.Reachable chain.recorded conversation capacity r) :
    r.Lives (fun _ => Recorder.Fresh) fun _ => Recorder.Sparing := by
  refine h.keeps sparing_living.persists (fun _ _ _ h => h) ?_
  intro i t ht
  left
  rw [Run.unstarted, List.getElem?_map] at ht
  obtain ⟨s, hs, rfl⟩ := Option.map_eq_some_iff.mp ht
  rw [Chain.recorded, List.getElem?_map] at hs
  obtain ⟨stage, hstage, rfl⟩ := Option.map_eq_some_iff.mp hs
  exact ⟨rfl, hchain stage (List.mem_of_getElem? hstage), rfl⟩

theorem Recorder.wakes_bounded {s : Recorder Stage} (h : s.Fresh ∨ s.Sparing) :
    s.wakes ≤ s.waits ∧ ∀ e ∈ s.record, e.isWake = true → e.sent = [.interrupt .timeout none] := by
  rcases h with ⟨_, hrecord⟩ | hsparing
  · simp [wakes, hrecord]
  · exact ⟨Nat.le_trans (Nat.le_add_right _ _) hsparing.covered, hsparing.interrupts⟩

/-- A task wakes its stage when the clock has reached the deadline of a handler. -/
theorem Run.step_wakes {r r' : Run (Recorder Stage) Shared} (hstep : r.step = some r')
    {i : Nat} {s s' : Station (Recorder Stage)} (hs : r.stations[i]? = some s)
    (hs' : r'.stations[i]? = some s') (hkind : s.stage.stage.isRule = false)
    (hwoken : s.stage.wakes < s'.stage.wakes) :
    ∃ handler d, s.stage.stage = .handler handler ∧ handler.deadline = some d ∧ d.tick ≤ r.now ∧
      s'.stage.record =
        s.stage.record ++ [.served (.handler handler) (.ok [.interrupt .timeout none])] ∧
      s'.stage.stage.deadline = none ∧ s'.task = .delivering [.interrupt .timeout none] false := by
  obtain ⟨u, hu, hcalls⟩ := Run.step_calls hstep hs'
  obtain rfl : u = s := Option.some.inj (hu.symm.trans hs)
  have hasleep : ∀ (stage : Stage) (e : Entry Stage), e.isWake = false →
      ¬u.stage.wakes < Recorder.wakes ⟨stage, u.stage.record ++ [e]⟩ := by
    intro stage e he
    simp [Recorder.wakes_snoc, he]
  -- Of all calls only that for a deadline is a wake.
  generalize s'.stage = t, s'.task = task at hcalls hwoken ⊢
  cases hcalls with
  | nothing => exact absurd hwoken (Nat.lt_irrefl _)
  | starts => exact absurd hwoken (hasleep _ _ rfl)
  | takes => exact absurd hwoken (hasleep _ _ rfl)
  | stops => exact absurd hwoken (hasleep _ _ rfl)
  | expires _ hd =>
    obtain ⟨d, hdeadline, hdue⟩ := hd
    have hpassed := (Instant.tick_le_iff d r.now).mp hdue
    obtain ⟨handler, hhandler, hresult, _, hnone⟩ :=
      Stage.expire_due hkind r.world u.conversation hdeadline hpassed
    have hown : Processor.deadline u.stage.stage = some d := hdeadline
    have hentry : Entry.served u.stage.stage
        (Processor.expire u.stage.stage r.world u.conversation r.time).result =
          .served (.handler handler) (.ok [.interrupt .timeout none]) :=
      congrArg₂ Entry.served hhandler hresult
    have hemitted : Run.emitted u.stage
        (Processor.expire u.stage.stage r.world u.conversation r.time).result =
          [.interrupt .timeout none] := congrArg (Run.emitted u.stage) hresult
    rw [hhandler] at hown
    exact ⟨handler, d, hhandler, hown, hdue, congrArg (u.stage.record ++ [·]) hentry, hnone,
      congrArg (Task.delivering · false) hemitted⟩

/-- A deadline that is reached is served once: the handler interrupts the agent and has no deadline
left. So at any moment each handler has been woken at most as often as it has announced a wait, no
wake was for nothing, and the tasks come to rest, whatever is done to the run in between. -/
theorem wakes_never_spin (chain : Chain Stage Shared)
    (hchain : ∀ s ∈ chain.stages, s.isRule = false) (conversation : Conversation)
    (capacity : Nat) :
    (∀ r, Run.Reachable chain.recorded conversation capacity r →
      (∀ (r' : Run (Recorder Stage) Shared) (i : Nat) (s s' : Station (Recorder Stage)),
        r.step = some r' → r.stations[i]? = some s → r'.stations[i]? = some s' →
        s.stage.wakes < s'.stage.wakes →
        ∃ (handler : SharedHandler) (d : Instant), s.stage.stage = .handler handler ∧
          handler.deadline = some d ∧ d.tick ≤ r.now ∧
          s'.stage.record =
            s.stage.record ++ [.served (.handler handler) (.ok [.interrupt .timeout none])] ∧
          s'.stage.stage.deadline = none ∧
          s'.task = .delivering [.interrupt .timeout none] false) ∧
      (∀ s ∈ r.stations, s.stage.wakes ≤ s.stage.waits ∧
        ∀ e ∈ s.stage.record, e.isWake = true → e.sent ≠ []) ∧
      ∃ v, r.Leads v ∧ v.step = none) ∧
    ∀ deeds : List Deed, let r := (Run.start chain.recorded conversation capacity).perform deeds
      Run.Reachable chain.recorded conversation capacity r ∧ r.settle.Idle ∧
        ((∀ d ∈ deeds.getLast?, d.isPaced = true) → r.Idle) ∧
        r.plain = (Run.start chain conversation capacity).perform deeds := by
  constructor
  · intro r hr
    have hlives := sparing_reachable hchain hr
    have hknown : ∀ (i : Nat) (s : Station (Recorder Stage)), r.stations[i]? = some s →
        s.stage.Fresh ∨ s.stage.Sparing :=
      fun i s hs => (hlives i s hs).imp_left (·.2)
    refine ⟨?_, ?_, r.settle, Run.leads_settleFor _ r, ?_⟩
    · intro r' i s s' hstep hs hs' hwoken
      have hkind : s.stage.stage.isRule = false := (hknown i s hs).elim (·.1) (·.kind)
      exact Run.step_wakes hstep hs hs' hkind hwoken
    · intro s hs
      obtain ⟨i, hi⟩ := List.mem_iff_getElem?.mp hs
      obtain ⟨hbounded, hinterrupts⟩ := Recorder.wakes_bounded (hknown i s hi)
      refine ⟨hbounded, fun e he hwake => ?_⟩
      rw [hinterrupts e he hwake]
      exact List.cons_ne_nil _ _
    · rw [Run.step_eq_none_iff]
      exact r.settle_ready
  · intro deeds r
    have hidle := Run.start_idle chain.recorded conversation capacity
    have hreached := (Run.Reachable.start chain.recorded conversation capacity).perform hidle.timely
    refine ⟨hreached deeds, (hidle.timely.perform deeds).settle, fun hlast => hidle.perform hlast, ?_⟩
    rw [Run.plain_perform, Run.plain_start]

/-- Two handlers wait for the same filler; their deadlines come in one millisecond, and each is woken
once. -/
theorem wakes_never_spin_twice :
    let policy : Policy :=
      ⟨{ acknowledgments := ["right away"] }, .umAndStop, by decide +kernel⟩
    let chain : Chain Stage Shared := ⟨"doubled",
      [.handler (.ofPolicy policy 0), .relay "relay", .handler (.ofPolicy policy 0), .filter],
      .ofPolicy policy⟩
    let filler : Frame := .transcript { text := "Um", receivedAt := ⟨0⟩ }
    let before : List Deed := [.post (.utteranceStarted ⟨0⟩), .post filler, .turn, .defer, .pause 3]
    let start := Run.start chain.recorded {} 4
    let r := (start.perform before).rung 2000
    let last := start.perform (before ++ [.pause 9000, .closeInput, .turn])
    (∀ s ∈ chain.stages, s.isRule = false) ∧ Run.Reachable chain.recorded {} 4 r ∧
      (∃ r' s s', r.step = some r' ∧ r.stations[0]? = some s ∧ r'.stations[0]? = some s' ∧
        s.stage.wakes < s'.stage.wakes ∧ s'.stage.stage.deadline = none ∧
        s'.task = .delivering [.interrupt .timeout none] false) ∧
      (∀ s ∈ last.stations, s.stage.wakes ≤ s.stage.waits) ∧
      last.stations.map (·.stage.wakes) = [1, 0, 1, 0] := by
  intro policy chain filler before start r last
  have hchain : ∀ s ∈ chain.stages, s.isRule = false := by simp [chain, Stage.isRule]
  obtain ⟨hmoments, hpoints⟩ := wakes_never_spin chain hchain {} 4
  obtain ⟨hreached, _, hidle, _⟩ := hpoints before
  have hr : Run.Reachable chain.recorded {} 4 r :=
    hreached.rung (hidle (by decide)).ready (by decide +kernel)
  obtain ⟨hsteps, _, _⟩ := hmoments r hr
  have hfirst : ∀ (v : Run (Recorder Stage) Shared) (n : Nat) (later : List Nat),
      v.stations.map (·.stage.wakes) = n :: later →
        ∃ s, v.stations[0]? = some s ∧ s.stage.wakes = n := by
    intro v n later h
    have hhead := congrArg (·[0]?) h
    simpa using hhead
  obtain ⟨s, hs, hasleep⟩ := hfirst r 0 [0, 0, 0] (by decide +kernel)
  have hcounts : r.step.map (·.stations.map (·.stage.wakes)) = some [1, 0, 0, 0] := by
    decide +kernel
  obtain ⟨r', hr', hcounts'⟩ := Option.map_eq_some_iff.mp hcounts
  obtain ⟨s', hs', hwoken⟩ := hfirst r' 1 _ hcounts'
  have hmore : s.stage.wakes < s'.stage.wakes := by omega
  obtain ⟨_, _, _, _, _, _, hnone, htask⟩ := hsteps r' 0 s s' hr' hs hs' hmore
  obtain ⟨hlast, _⟩ := hpoints (before ++ [.pause 9000, .closeInput, .turn])
  refine ⟨hchain, hr, ⟨r', s, s', hr', hs, hs', hmore, hnone, htask⟩, ?_, by decide +kernel⟩
  exact fun s hs => ((hmoments last hlast).2.1 s hs).1

end Pipeline

end BargeIn
