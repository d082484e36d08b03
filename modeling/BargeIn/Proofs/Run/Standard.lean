import BargeIn.Proofs.Pipeline.Interleaving
import BargeIn.Proofs.Pipeline.Stages

/-!
# The running standard chain

Between two things that are done to it, the standard chain is at rest: both tasks wait, no frame
is on its way, and the only alarm is that of the handler. A frame that is sent goes through both
stages, and then the deadline that it may have made due is served; a deadline that is reached in a
pause is served at its millisecond. What the clock reads at a deadline is called `t` wherever
terms are compared by evaluation, since a deadline's millisecond is a division that is slow to
open.
-/

set_option autoImplicit false

namespace BargeIn.Pipeline

/-- What a run of the standard chain has come to: the handler with the suppressor, the clock, and
what came out. -/
structure Scene where
  listener : Listener
  overheard : Conversation
  now : Nat
  output : List (Nat × Frame)

namespace Scene

def run (v : Scene) (ready : List Nat) (alarms : List (Nat × Nat))
    (inbox : List Frame) (task : Task) (between : List Frame) (task' : Task) :
    Run Stage Shared where
  stations :=
    [⟨v.listener.stage, v.listener.conversation, inbox, task⟩,
      ⟨.filter, v.overheard, between, task'⟩]
  world := v.listener.world
  capacity := 64
  now := v.now
  ready := ready
  alarms := alarms
  output := v.output

def time (v : Scene) : Instant := .ofMillis v.now

def later (v : Scene) (ms : Nat) : Scene := { v with now := ms }

def alarms (v : Scene) : List (Nat × Nat) :=
  v.listener.handler.deadline.toList.map fun d => (d.tick, 0)

def rest (v : Scene) : Run Stage Shared :=
  v.run [] v.alarms [] .waiting [] .waiting

def Calm (v : Scene) : Prop := ∀ d, v.listener.handler.deadline = some d → v.now < d.tick

theorem calm_or_due (v : Scene) :
    v.Calm ∨ ∃ d, v.listener.handler.deadline = some d ∧ d.tick ≤ v.now := by
  by_cases h : v.Calm
  · exact .inl h
  · exact .inr (by simpa [Calm] using h)

theorem alarms_hushed (v : Scene) : v.alarms.filter (·.2 != 0) = [] := by
  unfold alarms
  cases v.listener.handler.deadline <;> simp

theorem alarms_kept (v : Scene) : v.alarms.filter (·.2 != 1) = v.alarms := by
  unfold alarms
  cases v.listener.handler.deadline <;> simp

variable (v : Scene) (ready : List Nat)

/-! ## Steps -/

theorem handler_takes (alarms : List (Nat × Nat)) (f : Frame) (fs between : List Frame) :
    (v.run (0 :: ready) alarms (f :: fs) .waiting between .waiting).step =
      some ({ v with listener := (v.listener.call (.process f)).2 }.run (0 :: ready)
        (alarms.filter (·.2 != 0)) fs
        (.delivering (v.listener.call (.process f)).1 f.isEndOfStream) between .waiting) := by
  have hstep : (v.run (0 :: ready) alarms (f :: fs) .waiting between .waiting).step =
      some ((v.run (0 :: ready) (alarms.filter (·.2 != 0)) fs .waiting between .waiting).absorb 0
        ⟨v.listener.stage, v.listener.conversation, fs, .waiting⟩
        (Processor.process v.listener.stage v.listener.world v.listener.conversation v.time f)
        f.isEndOfStream) := rfl
  rw [hstep, v.listener.stage_process v.time f]
  rfl

theorem handler_returns (alarms : List (Nat × Nat)) (fs between : List Frame) :
    (v.run (0 :: ready) alarms fs (.delivering [] false) between .waiting).step =
      some (v.run (0 :: ready) (alarms.filter (·.2 != 0)) fs .waiting between .waiting) := by
  rfl

theorem handler_ends (alarms : List (Nat × Nat)) (fs between : List Frame) :
    (v.run (0 :: ready) alarms fs (.delivering [] true) between .waiting).step =
      some ({ v with listener := (v.listener.call .stop).2 }.run (0 :: ready)
        (alarms.filter (·.2 != 0)) fs .waiting between .waiting) := by
  rfl

theorem handler_expires (alarms : List (Nat × Nat)) (between : List Frame) (d : Instant)
    (hd : v.listener.handler.deadline = some d) (hle : d.tick ≤ v.now) :
    (v.run (0 :: ready) alarms [] .waiting between .waiting).step =
      some ({ v with listener := (v.listener.call (.expire v.time)).2 }.run (0 :: ready)
        (alarms.filter (·.2 != 0)) []
        (.delivering (v.listener.call (.expire v.time)).1 false) between .waiting) := by
  have hdeadline : Processor.deadline v.listener.stage = some d := hd
  have hstep : (v.run (0 :: ready) alarms [] .waiting between .waiting).step =
      some ((v.run (0 :: ready) (alarms.filter (·.2 != 0)) [] .waiting between .waiting).absorb 0
        ⟨v.listener.stage, v.listener.conversation, [], .waiting⟩
        (Processor.expire v.listener.stage v.listener.world v.listener.conversation v.time)
        false) := by
    simp [run, Run.step, Run.move, Run.inputEnded, hdeadline, hle]
    rfl
  rw [hstep, v.listener.stage_expire v.time]
  rfl

theorem handler_sleeps (alarms : List (Nat × Nat)) (between : List Frame) (hc : v.Calm) :
    (v.run (0 :: ready) alarms [] .waiting between .waiting).step =
      some (v.run ready (alarms.filter (·.2 != 0) ++ v.alarms) [] .waiting between .waiting) := by
  have hdeadline : Processor.deadline v.listener.stage = v.listener.handler.deadline := rfl
  cases hl : v.listener.handler.deadline with
  | none =>
    rw [hl] at hdeadline
    simp [run, Run.step, Run.move, Run.inputEnded, hdeadline, Scene.alarms, hl]
  | some d =>
    have hlate : ¬d.tick ≤ v.now := Nat.not_le.mpr (hc d hl)
    rw [hl] at hdeadline
    simp [run, Run.step, Run.move, Run.inputEnded, hdeadline, Scene.alarms, hl, hlate]

theorem handler_delivers (alarms : List (Nat × Nat)) (f : Frame) (gs fs between : List Frame)
    (atEnd : Bool) (hl : between.length < 64) :
    (v.run (0 :: ready) alarms fs (.delivering (f :: gs) atEnd) between .waiting).step =
      some (v.run (0 :: if ready.contains 1 then ready else ready ++ [1])
        (alarms.filter (·.2 != 0)) fs (.delivering gs atEnd) (between ++ [f]) .waiting) := by
  cases hr : ready.contains 1 with
  | true =>
    simp [run, Run.step, Run.move, Run.room, Station.admits, Station.isStopped, Run.handOver, hl,
      Run.update, Run.wake, show 1 ∈ ready by simpa using hr]
  | false =>
    simp [run, Run.step, Run.move, Run.room, Station.admits, Station.isStopped, Run.handOver, hl,
      Run.update, Run.wake, show 1 ∉ ready by simpa using hr]

theorem filter_takes (alarms : List (Nat × Nat)) (f : Frame) (fs : List Frame) :
    (v.run [1] alarms [] .waiting (f :: fs) .waiting).step =
      some ({ v with listener := { v.listener with
          suppressor := (Filter.process v.listener.suppressor v.time f).2 } }.run [1]
        (alarms.filter (·.2 != 1)) [] .waiting fs
        (.delivering [(Filter.process v.listener.suppressor v.time f).1] f.isEndOfStream)) := by
  rfl

theorem filter_emits (alarms : List (Nat × Nat)) (f : Frame) (fs : List Frame) (atEnd : Bool) :
    (v.run [1] alarms [] .waiting fs (.delivering [f] atEnd)).step =
      some ({ v with output := v.output ++ [(v.now, f)] }.run [1]
        (alarms.filter (·.2 != 1)) [] .waiting fs (.delivering [] atEnd)) := by
  rfl

theorem filter_returns (alarms : List (Nat × Nat)) (fs : List Frame) (atEnd : Bool) :
    (v.run [1] alarms [] .waiting fs (.delivering [] atEnd)).step =
      some (v.run [1] (alarms.filter (·.2 != 1)) [] .waiting fs .waiting) := by
  cases atEnd <;> rfl

theorem filter_sleeps (alarms : List (Nat × Nat)) :
    (v.run [1] alarms [] .waiting [] .waiting).step =
      some (v.run [] (alarms.filter (·.2 != 1)) [] .waiting [] .waiting) := by
  rfl

/-! ## Turns -/

def turns : List Frame → List Nat
  | [] => []
  | _ :: _ => [1]

theorem handler_delivers_all (gs fs between : List Frame) (atEnd : Bool)
    (hl : between.length + gs.length ≤ 64) :
    Run.Leads (v.run (0 :: turns between) [] fs (.delivering gs atEnd) between .waiting)
      (v.run (0 :: turns (between ++ gs)) [] fs (.delivering [] atEnd) (between ++ gs)
        .waiting) := by
  induction gs generalizing between with
  | nil =>
    rw [List.append_nil]
    exact .here _
  | cons g gs ih =>
    rw [List.length_cons] at hl
    have hstep := v.handler_delivers (turns between) [] g gs fs between atEnd (by omega)
    have hturns : (if (turns between).contains 1 then turns between else turns between ++ [1]) =
        turns (between ++ [g]) := by
      cases between <;> rfl
    have hrest := ih (between ++ [g]) (by simp; omega)
    rw [hturns] at hstep
    rw [List.append_assoc] at hrest
    exact .step hstep hrest

theorem handler_done (f : Frame) (fs between : List Frame) :
    Run.Leads
      ({ v with listener := (v.listener.call (.process f)).2 }.run (0 :: ready) [] fs
        (.delivering [] f.isEndOfStream) between .waiting)
      ({ v with listener := (v.listener.call (.process f)).2 }.run (0 :: ready) [] fs .waiting
        between .waiting) := by
  cases f with
  | endOfStream => exact .step (handler_ends _ _ _ _ _) (.here _)
  | _ => exact .step (handler_returns _ _ _ _ _) (.here _)

def served (v : Scene) : List Frame × Scene :=
  match v.listener.handler.deadline with
  | none => ([], v)
  | some d =>
    if d.tick ≤ v.now then
      ((v.listener.call (.expire v.time)).1,
        { v with listener := (v.listener.call (.expire v.time)).2 })
    else ([], v)

theorem calm_served {v : Scene} (h : v.Calm) : v.served = ([], v) := by
  unfold served
  split
  case h_1 => rfl
  case h_2 d hs => exact if_neg (Nat.not_le.mpr (h d hs))

theorem due_served {v : Scene} {d : Instant} (hd : v.listener.handler.deadline = some d)
    (hle : d.tick ≤ v.now) :
    v.served = ([.interrupt .timeout none],
      { v with listener := (v.listener.call (.expire v.time)).2 }) := by
  have hout := (v.listener.handler.expire_due hd ((d.tick_le_iff v.now).mp hle)).1
  simp only [served, hd, hle, if_true]
  exact congrArg (·, _) hout

theorem served_calm (v : Scene) : v.served.2.Calm := by
  rcases v.calm_or_due with hc | ⟨d, hd, hle⟩
  · rwa [calm_served hc]
  · rw [due_served hd hle]
    intro e he
    have hlt := Handler.expire_calm _ _ _ he
    exact Nat.not_le.mp ((e.not_tick_le_iff v.now).mpr hlt)

theorem handler_serves (alarms : List (Nat × Nat)) (ha : alarms.filter (·.2 != 0) = [])
    (between : List Frame) (hl : between.length ≤ 63) :
    Run.Leads (v.run (0 :: turns between) alarms [] .waiting between .waiting)
      (v.served.2.run (turns (between ++ v.served.1)) v.served.2.alarms [] .waiting
        (between ++ v.served.1) .waiting) := by
  have hcalm := v.served_calm
  rcases v.calm_or_due with hc | ⟨d, hd, hle⟩
  · have hstep := handler_sleeps v (turns between) alarms between hc
    rw [ha, List.nil_append] at hstep
    rw [calm_served hc, List.append_nil]
    exact .step hstep (.here _)
  · have hexpires := handler_expires v (turns between) alarms between d hd hle
    have hout := (v.listener.handler.expire_due hd ((d.tick_le_iff v.now).mp hle)).1
    rw [ha, show (v.listener.call (.expire v.time)).1 = _ from hout] at hexpires
    rw [due_served hd hle] at hcalm ⊢
    refine .step hexpires ?_
    refine (handler_delivers_all _ _ _ _ _ (by simp; omega)).trans ?_
    refine .step (handler_returns _ _ _ _ _) ?_
    exact .step (handler_sleeps _ _ [] _ hcalm) (.here _)

def attended (v : Scene) (f : Frame) : List Frame × Scene :=
  let (out, listener) := v.listener.call (.process f)
  let (later, v) := served { v with listener }
  (out ++ later, v)

theorem handler_turn (alarms : List (Nat × Nat)) (ha : alarms.filter (·.2 != 0) = [])
    (f : Frame) :
    Run.Leads (v.run [0] alarms [f] .waiting [] .waiting)
      ((v.attended f).2.run (turns (v.attended f).1) (v.attended f).2.alarms [] .waiting
        (v.attended f).1 .waiting) := by
  have hfew := v.listener.call_process_few f
  refine .step (handler_takes v [] alarms f [] []) ?_
  rw [ha]
  refine (handler_delivers_all _ _ _ [] _ (by simp; omega)).trans ?_
  refine (handler_done v _ f _ _).trans ?_
  exact handler_serves _ [] rfl _ (by simp; omega)

def filtered (v : Scene) (frames : List Frame) : Scene :=
  let (out, suppressor) := Filter.processAll v.listener.suppressor v.time frames
  { v with
    listener := { v.listener with suppressor }
    output := v.output ++ out.map (v.now, ·) }

theorem filter_turn (frames : List Frame) :
    Run.Leads (v.run [1] v.alarms [] .waiting frames .waiting) (v.filtered frames).rest := by
  induction frames generalizing v with
  | nil =>
    have hstep := filter_sleeps v v.alarms
    rw [alarms_kept] at hstep
    simp only [filtered, Filter.processAll, List.map_nil, List.append_nil]
    exact .step hstep (.here _)
  | cons f fs ih =>
    refine .step (filter_takes v v.alarms f fs) ?_
    refine .step (filter_emits _ _ _ _ _) ?_
    refine .step (filter_returns _ _ _ _) ?_
    simp only [alarms_kept]
    have hrest := ih { v with
      listener := { v.listener with
        suppressor := (Filter.process v.listener.suppressor v.time f).2 }
      output := v.output ++ [(v.now, (Filter.process v.listener.suppressor v.time f).1)] }
    simp only [filtered, Filter.processAll, List.map_cons, List.append_assoc] at hrest ⊢
    exact hrest

theorem filter_turns (frames : List Frame) :
    Run.Leads (v.run (turns frames) v.alarms [] .waiting frames .waiting)
      (v.filtered frames).rest := by
  cases frames with
  | nil =>
    simp only [filtered, Filter.processAll, List.map_nil, List.append_nil]
    exact .here _
  | cons f fs => exact v.filter_turn (f :: fs)

theorem rest_send (f : Frame) :
    v.rest.send f = ((v.attended f).2.filtered (v.attended f).1).rest := by
  have hsend : v.rest.send f = (v.run [0] v.alarms [f] .waiting [] .waiting).settle := rfl
  rw [hsend]
  exact ((v.handler_turn v.alarms v.alarms_hushed f).trans (filter_turns _ _)).settle_eq rfl

theorem rest_ring {d : Instant} {t : Nat} (hd : v.listener.handler.deadline = some d)
    (ht : d.tick = t) :
    v.rest.ring t = ((v.later t).served.2.filtered (v.later t).served.1).rest := by
  have halarms : v.alarms = [(t, 0)] := by simp [alarms, hd, ht]
  have hdue : v.rest.alarms.filter (·.1 ≤ t) = [(t, 0)] := by simp [rest, run, halarms]
  have hring : v.rest.ring t =
      ((v.later t).run [0] v.alarms [] .waiting [] .waiting).settle := by
    rw [Run.ring, Run.rung, hdue]
    rfl
  rw [hring]
  have hserves := handler_serves (v.later t) v.alarms v.alarms_hushed [] (by simp)
  exact (hserves.trans (filter_turns _ _)).settle_eq rfl

def opening (policy : Policy) (conversation : Conversation) : Scene :=
  ⟨.fresh policy conversation, conversation, 0, []⟩

theorem rest_start (policy : Policy) (conversation : Conversation) :
    Run.start (interruptionChain policy) conversation 64 =
      (opening policy conversation).rest := by
  have hleads : Run.Leads
      ((opening policy conversation).run [0, 1] [] [] .unstarted []
        .unstarted)
      (opening policy conversation).rest :=
    .step rfl (.step rfl (.step rfl (.step rfl (.here _))))
  exact hleads.settle_eq rfl

/-! ## What is done to the chain at rest -/

def took (v : Scene) (f : Frame) : Scene :=
  { v with
    listener := (v.listener.take v.time f).2
    output := v.output ++ (v.listener.take v.time f).1.map (v.now, ·) }

def expired (v : Scene) : Scene :=
  { v with
    listener := (v.listener.call (.expire v.time)).2
    output := v.output ++ [(v.now, .interrupt .timeout none)] }

def settled (v : Scene) : Scene :=
  v.served.2.filtered v.served.1

theorem filtered_unspoken (v : Scene) {frames : List Frame}
    (h : ∀ f ∈ frames, ∀ text, f ≠ .agentSpeech text) :
    v.filtered frames = { v with output := v.output ++ frames.map (v.now, ·) } := by
  simp only [filtered, processAll_unspoken _ _ h]

theorem calm_settled {v : Scene} (h : v.Calm) : v.settled = v := by
  rw [settled, calm_served h]
  simp [filtered, Filter.processAll]

theorem due_settled {v : Scene} {d : Instant} (hd : v.listener.handler.deadline = some d)
    (hle : d.tick ≤ v.now) : v.settled = v.expired := by
  rw [settled, due_served hd hle, filtered_unspoken _ (by simp)]
  rfl

/-- A frame sent to the chain at rest goes through both stages, and then a deadline that it made
due is served. -/
theorem send_took (hc : v.Calm) (f : Frame) : v.rest.send f = (v.took f).settled.rest := by
  rw [rest_send]
  congr 1
  rcases speech_or_other f with ⟨text, rfl⟩ | hf
  · have hcall : v.listener.call (.process (.agentSpeech text)) =
        ([.agentSpeech text], v.listener) := rfl
    have hcalm : (v.took (.agentSpeech text)).Calm := hc
    simp only [attended, hcall, calm_served hc]
    rw [calm_settled hcalm]
    simp [filtered, took, Listener.take, Filter.processAll, time]
  · have hout := v.listener.call_unspoken hf
    have htook : v.took f = { v with
        listener := (v.listener.call (.process f)).2
        output := v.output ++ (v.listener.call (.process f)).1.map (v.now, ·) } := by
      simp only [took, v.listener.take_unspoken v.time hf]
    rcases (v.took f).calm_or_due with hcalm | ⟨d, hd, hle⟩
    · have hserved := calm_served (v := { v with listener := (v.listener.call (.process f)).2 })
        (by rw [htook] at hcalm; exact hcalm)
      rw [calm_settled hcalm, htook]
      simp only [attended, hserved, List.append_nil]
      exact filtered_unspoken _ hout
    · rw [due_settled hd hle, htook]
      rw [htook] at hd hle
      have hserved := due_served (v := { v with listener := (v.listener.call (.process f)).2 })
        hd hle
      simp only [attended, hserved]
      rw [filtered_unspoken _ (by simpa [or_imp, forall_and] using hout)]
      simp [expired, time]

theorem start_calm (policy : Policy) (conversation : Conversation) :
    (opening policy conversation).Calm := by
  intro d hd
  cases hd

theorem expired_quiet {v : Scene} {d : Instant} (hd : v.listener.handler.deadline = some d)
    (hle : d.tick ≤ v.now) : v.expired.listener.handler.deadline = none :=
  (v.listener.handler.expire_due hd ((d.tick_le_iff v.now).mp hle)).2

theorem nextAlarm_rest (v : Scene) :
    v.rest.nextAlarm = v.listener.handler.deadline.map (·.tick) := by
  simp only [Run.nextAlarm, rest, run, alarms]
  cases v.listener.handler.deadline with
  | none => rfl
  | some d => simp only [Option.toList_some, List.map_cons, List.map_nil, Option.map_some,
      List.min?_singleton]

theorem passUntil_rest {target : Nat}
    (h : ∀ d, v.listener.handler.deadline = some d → target < d.tick) (left : Nat) :
    Run.passUntil target left v.rest = (v.later target).rest := by
  have hlate : ∀ t ∈ v.rest.nextAlarm, target < t := by
    intro t ht
    rw [nextAlarm_rest] at ht
    obtain ⟨d, hd, rfl⟩ := Option.map_eq_some_iff.mp ht
    exact h d hd
  rw [Run.passUntil_idle hlate]
  rfl

theorem ring_expired {d : Instant} {t : Nat} (hd : v.listener.handler.deadline = some d)
    (ht : d.tick = t) : v.rest.ring t = (v.later t).expired.rest := by
  have hsettled : (v.later t).settled = (v.later t).expired := due_settled hd (Nat.le_of_eq ht)
  rw [v.rest_ring hd ht, ← settled, hsettled]

theorem sleep_rest (ms : Nat) : v.rest.sleep ms = Run.passUntil (v.now + ms) ms v.rest := by
  rw [Run.sleep, Run.settle_idle rfl]
  rfl

theorem sleep_idle {ms : Nat}
    (h : ∀ d, v.listener.handler.deadline = some d → v.now + ms < d.tick) :
    v.rest.sleep ms = (v.later (v.now + ms)).rest := by
  rw [sleep_rest]
  exact v.passUntil_rest h ms

/-- A deadline that is reached within a pause is served on time. -/
theorem sleep_expired {d : Instant} {t ms : Nat} (hd : v.listener.handler.deadline = some d)
    (ht : d.tick = t) (hlt : v.now < t) (hle : t ≤ v.now + ms) :
    v.rest.sleep ms = ((v.later t).expired.later (v.now + ms)).rest := by
  obtain ⟨left, rfl⟩ : ∃ left, ms = left + 1 := Nat.exists_eq_succ_of_ne_zero (by omega)
  have hnext : v.rest.nextAlarm = some t := by rw [nextAlarm_rest, hd, Option.map_some, ht]
  have hquiet : (v.later t).expired.listener.handler.deadline = none :=
    expired_quiet hd (Nat.le_of_eq ht)
  calc v.rest.sleep (left + 1)
      = Run.passUntil (v.now + (left + 1)) left (v.rest.ring t) := by
        rw [sleep_rest, Run.passUntil_ring hnext hle left]
    _ = Run.passUntil (v.now + (left + 1)) left (v.later t).expired.rest := by
        rw [v.ring_expired hd ht]
    _ = ((v.later t).expired.later (v.now + (left + 1))).rest :=
        passUntil_rest _ (by simp [hquiet]) left

theorem quiet_calm {v : Scene} (h : v.listener.handler.deadline = none) : v.Calm := by
  intro d hd
  rw [h] at hd
  cases hd

theorem rest_send_cases (hc : v.Calm) (f : Frame) :
    (v.rest.send f = (v.took f).rest ∧ (v.took f).Calm) ∨
      v.rest.send f = (v.took f).expired.rest ∧
        (v.took f).expired.listener.handler.deadline = none := by
  rw [v.send_took hc f]
  rcases (v.took f).calm_or_due with hcalm | ⟨d, hd, hle⟩
  · exact .inl ⟨congrArg rest (calm_settled hcalm), hcalm⟩
  · exact .inr ⟨congrArg rest (due_settled hd hle), expired_quiet hd hle⟩

theorem rest_sleep_cases (hc : v.Calm) (ms : Nat) :
    (v.rest.sleep ms = (v.later (v.now + ms)).rest ∧ (v.later (v.now + ms)).Calm) ∨
      ∃ t, v.rest.sleep ms = ((v.later t).expired.later (v.now + ms)).rest ∧
        (v.later t).expired.listener.handler.deadline = none := by
  by_cases hidle : (v.later (v.now + ms)).Calm
  · exact .inl ⟨v.sleep_idle hidle, hidle⟩
  · simp only [Calm, not_forall, Nat.not_lt] at hidle
    obtain ⟨d, hd, hle⟩ := hidle
    obtain ⟨t, ht⟩ : ∃ t, d.tick = t := ⟨_, rfl⟩
    have hlt := hc d hd
    rw [ht] at hle hlt
    exact .inr ⟨t, v.sleep_expired hd ht hlt hle, expired_quiet hd (Nat.le_of_eq ht)⟩

end Scene

end BargeIn.Pipeline
