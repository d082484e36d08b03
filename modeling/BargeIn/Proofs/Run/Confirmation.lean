import Mathlib.Algebra.GroupWithZero.Nat
import BargeIn.Proofs.Pipeline.Utterances
import BargeIn.Proofs.Run.Standard

/-!
# A pending confirmation times out once and on time

A fragment that makes the handler wait sets a deadline. If nothing that concerns the utterance
comes in until then, one interruption is output at the first millisecond at or after the deadline,
at once if that has passed, and none before or after, whatever else is sent and however the time
is divided into pauses. Any other decision and any boundary of the utterance leaves no deadline.
-/

set_option autoImplicit false

namespace BargeIn

/-- The handler goes on waiting when it takes the frame. -/
def Frame.isQuiet : Frame → Bool
  | .transcript _ | .utteranceStarted _ | .utteranceEnded | .control .reset | .endOfStream => false
  | _ => true

namespace Pipeline

def awaited : Frame → Option Instant
  | .awaitingConfirmation d => some d
  | _ => none

namespace Deed

def isQuiet : Deed → Bool
  | .send f => f.isQuiet
  | .pause _ => true
  | _ => false

def duration : Deed → Nat
  | .pause ms => ms
  | _ => 0

end Deed

/-- What comes out of quiet frames, each at the time at which it is sent, where withheld speech
counts as speech. Words to be learned do not come out. -/
def echoes (now : Nat) : List Deed → List (Nat × Frame)
  | [] => []
  | .send f :: deeds =>
    (Call.process f).passedOn.map (fun g => (now, g.voiced)) ++ echoes now deeds
  | .pause ms :: deeds => echoes (now + ms) deeds
  | _ :: deeds => echoes now deeds

def voicedAll (out : List (Nat × Frame)) : List (Nat × Frame) :=
  out.map fun (ms, f) => (ms, f.voiced)

def Run.pending (r : Run Stage Shared) : Option Instant :=
  r.stations.head?.bind fun s => Processor.deadline s.stage

namespace Handler

def Permitted (h : Handler) : Prop :=
  ∀ d, h.deadline = some d → h.policy.config.allowInterruptions = true

end Handler

/-- What a frame that is not quiet makes of a handler: the decision it causes, if it is a fragment,
and the deadline that stands after it. -/
structure Decides (h next : Handler) (f : Frame) (decision : Option Frame) : Prop where
  fragment : ∀ g ∈ decision, g.isDecision = true ∧ ∃ x, f = .transcript x
  deadline : next.deadline = decision.bind awaited
  permitted : ∀ d, decision = some (.awaitingConfirmation d) →
    next.policy.config.allowInterruptions = true
  /-- An interruption for a deadline is for the one that stands, which has then passed, or for one
  beyond the last instant. -/
  timely : decision = some (.interrupt .timeout none) → ∃ x, f = .transcript x ∧
    ((∃ d, h.deadline = some d ∧ d ≤ x.receivedAt) ∨
      h.deadline = none ∧ x.receivedAt.add? h.policy.config.resumeTimeout = none)

theorem move_decides {h next : Handler} {x : Fragment} {heard : Classification}
    {state state' : SpeechState} {decision : Decision} (hp : h.Permitted)
    (hs : h.deadline = state.deadline) (hn : next.deadline = state'.deadline)
    (hc : next.policy.config = h.policy.config)
    (hm : Policy.Move h.policy.config x heard state decision state') :
    Decides h next (.transcript x) (decision.frame (some x.text)) where
  fragment g hg := ⟨decision_frame_isDecision hg, x, rfl⟩
  deadline := by
    rw [hn]
    cases hm with
    | barred hi hstop ha =>
      cases hd : state.deadline with
      | none => rfl
      | some d => exact absurd (hp d (hs.trans hd)) (by simp [ha])
    | _ => rfl
  permitted d hd := by
    rw [hc]
    cases hm with
    | wait hstop ha => exact ha
    | _ => simp [Decision.frame] at hd
  timely hd := by
    refine ⟨x, rfl, ?_⟩
    cases hm with
    | late hstop ha hle => exact .inl ⟨_, hs, hle⟩
    | endless hstop ha hm hadd => exact .inr ⟨hs, hadd⟩
    | _ => simp [Decision.frame] at hd

theorem hear_decides (h : Handler) (s : Suppressor) (x : Fragment) (hp : h.Permitted) :
    Decides h (h.hear s x).2.1 (.transcript x) ((h.hear s x).1.frame (some x.text)) := by
  obtain ⟨policy, session⟩ := h
  cases session with
  | none =>
    rw [Handler.hear_silent _ _ _ rfl]
    exact ⟨by simp [Decision.frame], rfl, by simp [Decision.frame], by simp [Decision.frame]⟩
  | some session =>
    rw [Handler.hear_open _ _ _ session rfl]
    exact move_decides hp rfl rfl rfl (Policy.transition_move _ _ _ _)

theorem call_decides (l : Listener) {f : Frame} (hf : f.isQuiet = false)
    (hp : l.handler.Permitted) : ∃ decision : Option Frame,
      (l.call (.process f)).1 = decision.toList ++ [f] ∧
        Decides l.handler (l.call (.process f)).2.handler f decision := by
  cases f with
  | transcript x => exact ⟨_, rfl, hear_decides l.handler l.suppressor x hp⟩
  | utteranceStarted | utteranceEnded | endOfStream =>
    exact ⟨none, rfl, by simp, rfl, by simp, by simp⟩
  | control control =>
    cases control with
    | reset => exact ⟨none, rfl, by simp, rfl, by simp, by simp⟩
    | addIgnoredWords => cases hf
  | _ => cases hf

theorem take_quiet (l : Listener) (now : Instant) {f : Frame} (hf : f.isQuiet = true) :
    (l.take now f).2.handler.deadline = l.handler.deadline ∧
      (l.take now f).1.map Frame.voiced = (Call.process f).passedOn.map Frame.voiced := by
  cases f with
  | agentSpeech text => exact ⟨rfl, by simp [Listener.take, process_voiced, Call.passedOn]⟩
  | control control =>
    cases control with
    | reset => cases hf
    | addIgnoredWords => exact ⟨rfl, rfl⟩
  | transcript | utteranceStarted | utteranceEnded | endOfStream => cases hf
  | _ => exact ⟨rfl, rfl⟩

theorem awaited_iff {decision : Option Frame} {d : Instant} :
    decision.bind awaited = some d ↔ decision = some (.awaitingConfirmation d) := by
  cases decision with
  | none => simp
  | some g => cases g <;> simp [awaited]

def timeouts (since now : Nat) : Option Instant → List (Nat × Frame)
  | none => []
  | some d =>
    if max since d.tick ≤ now then [(max since d.tick, .interrupt .timeout none)] else []

def outstanding (since now : Nat) : Option Instant → Option Instant
  | none => none
  | some d => if max since d.tick ≤ now then none else some d

namespace Scene

structure Steady (c : Policy.Config) (v : Scene) : Prop where
  calm : v.Calm
  config : v.listener.config = c
  permitted : v.listener.handler.Permitted

theorem take_permitted {l : Listener} (h : l.handler.Permitted) (now : Instant) (f : Frame) :
    (l.take now f).2.handler.Permitted := by
  have hconfig : (l.take now f).2.handler.policy.config = l.handler.policy.config :=
    (l.take_continues now f).config
  intro d hd
  cases hf : f.isQuiet with
  | true =>
    rw [(take_quiet l now hf).1] at hd
    rw [hconfig]
    exact h d hd
  | false =>
    have hunspoken : ∀ text, f ≠ .agentSpeech text := by
      rintro text rfl
      cases hf
    obtain ⟨decision, _, hdecides⟩ := call_decides l hf h
    rw [l.take_unspoken now hunspoken] at hd ⊢
    exact hdecides.permitted d (awaited_iff.mp (hdecides.deadline.symm.trans hd))

@[simp] theorem rest_output (v : Scene) : v.rest.output = v.output := rfl

@[simp] theorem rest_now (v : Scene) : v.rest.now = v.now := rfl

theorem steady_opening (policy : Policy) (conversation : Conversation) :
    (opening policy conversation).Steady policy.config :=
  ⟨start_calm policy conversation, rfl, fun _ hd => nomatch hd⟩

theorem expired_config (v : Scene) : v.expired.listener.config = v.listener.config :=
  (v.listener.call_continues (.expire v.time)).config

theorem Steady.send {c : Policy.Config} {v : Scene} (h : v.Steady c) (f : Frame) :
    ∃ u : Scene, v.rest.send f = u.rest ∧ u.Steady c := by
  have hconfig : (v.took f).listener.config = c :=
    ((v.listener.take_continues v.time f).config).trans h.config
  rcases v.rest_send_cases h.calm f with ⟨hsend, hcalm⟩ | ⟨hsend, hquiet⟩
  · exact ⟨_, hsend, hcalm, hconfig, take_permitted h.permitted v.time f⟩
  · exact ⟨_, hsend, quiet_calm hquiet, (expired_config _).trans hconfig,
      fun e he => nomatch hquiet.symm.trans he⟩

theorem Steady.pause {c : Policy.Config} {v : Scene} (h : v.Steady c) (ms : Nat) :
    ∃ u : Scene, v.rest.sleep ms = u.rest ∧ u.Steady c := by
  rcases v.rest_sleep_cases h.calm ms with ⟨hsleep, hcalm⟩ | ⟨t, hsleep, hquiet⟩
  · exact ⟨_, hsleep, hcalm, h.config, h.permitted⟩
  · exact ⟨_, hsleep, quiet_calm hquiet, (expired_config (v.later t)).trans h.config,
      fun e he => nomatch hquiet.symm.trans he⟩

theorem Steady.perform {c : Policy.Config} {v : Scene} (h : v.Steady c) {deeds : List Deed}
    (hpaced : ∀ deed ∈ deeds, deed.isPaced = true) :
    ∃ u : Scene, v.rest.perform deeds = u.rest ∧ u.Steady c := by
  induction deeds generalizing v with
  | nil => exact ⟨v, rfl, h⟩
  | cons deed deeds ih =>
    obtain ⟨w, hw, hsteady⟩ : ∃ w : Scene, v.rest.deed deed = w.rest ∧ w.Steady c := by
      have hdeed := hpaced deed List.mem_cons_self
      cases deed with
      | send f => exact h.send f
      | pause ms => exact h.pause ms
      | _ => cases hdeed
    rw [Run.perform, hw]
    exact ih hsteady fun later hlater => hpaced later (List.mem_cons_of_mem deed hlater)

structure Passes (v : Scene) (deeds : List Deed) (u : Scene) (out : List (Nat × Frame)) : Prop where
  perform : v.rest.perform deeds = u.rest
  clock : u.now = v.now + (deeds.map Deed.duration).sum
  heard : voicedAll out = echoes v.now deeds
  since : ∀ e ∈ out, v.now ≤ e.1

theorem Passes.nil (v : Scene) : Passes v [] v [] :=
  ⟨rfl, rfl, rfl, by simp⟩

theorem send_quiet {v : Scene} (hc : v.Calm) {f : Frame} (hf : f.isQuiet = true) :
    v.rest.send f = (v.took f).rest ∧
      (v.took f).listener.handler.deadline = v.listener.handler.deadline := by
  have hdeadline := (take_quiet v.listener v.time hf).1
  have hcalm : (v.took f).Calm := fun d hd => hc d (hdeadline.symm.trans hd)
  rw [v.send_took hc f, calm_settled hcalm]
  exact ⟨rfl, hdeadline⟩

theorem Passes.send {v u : Scene} {f : Frame} {deeds : List Deed} {out : List (Nat × Frame)}
    (hc : v.Calm) (hf : f.isQuiet = true) (h : Passes (v.took f) deeds u out) :
    Passes v (.send f :: deeds) u
      ((v.listener.take v.time f).1.map (v.now, ·) ++ out) where
  perform := by rw [Run.perform, Run.deed, (send_quiet hc hf).1, h.perform]
  clock := by
    rw [h.clock]
    simp [took, Deed.duration]
  heard := by
    have hout := congrArg (List.map (v.now, ·)) (take_quiet v.listener v.time hf).2
    have hlater := h.heard
    simp only [voicedAll, echoes, List.map_append, List.map_map] at hout hlater ⊢
    exact congrArg₂ (· ++ ·) hout hlater
  since := by
    intro e he
    rcases List.mem_append.mp he with he | he
    · obtain ⟨g, _, rfl⟩ := List.mem_map.mp he
      exact Nat.le_refl _
    · exact h.since e he

theorem Passes.pause {v w u : Scene} {ms : Nat} {deeds : List Deed} {out : List (Nat × Frame)}
    (hw : v.rest.sleep ms = w.rest) (hnow : w.now = v.now + ms) (h : Passes w deeds u out) :
    Passes v (.pause ms :: deeds) u out where
  perform := by rw [Run.perform, Run.deed, hw, h.perform]
  clock := by
    rw [h.clock, hnow]
    simp [Deed.duration, Nat.add_assoc]
  heard := by rw [h.heard, hnow, echoes]
  since e he := by
    have := h.since e he
    omega

theorem perform_idle {v : Scene} (hn : v.listener.handler.deadline = none) (deeds : List Deed)
    (hq : ∀ deed ∈ deeds, deed.isQuiet = true) :
    ∃ (u : Scene) (out : List (Nat × Frame)), Passes v deeds u out ∧
      u.output = v.output ++ out ∧ u.listener.handler.deadline = none := by
  induction deeds generalizing v with
  | nil => exact ⟨v, [], .nil v, (List.append_nil _).symm, hn⟩
  | cons deed deeds ih =>
    have hlater : ∀ deed ∈ deeds, deed.isQuiet = true :=
      fun later hlater => hq later (List.mem_cons_of_mem deed hlater)
    have hf := hq deed List.mem_cons_self
    cases deed with
    | send f =>
      have hcalm : v.Calm := fun d hd => nomatch hn.symm.trans hd
      obtain ⟨u, out, hu, hout, hnone⟩ := ih ((send_quiet hcalm hf).2.trans hn) hlater
      exact ⟨u, _, .send hcalm hf hu, hout.trans (List.append_assoc _ _ _), hnone⟩
    | pause ms =>
      obtain ⟨u, out, hu, hout, hnone⟩ := ih (v := v.later (v.now + ms)) hn hlater
      have hsleep : v.rest.sleep ms = (v.later (v.now + ms)).rest :=
        v.sleep_idle fun d hd => nomatch hn.symm.trans hd
      exact ⟨u, out, .pause hsleep rfl hu, hout, hnone⟩
    | _ => cases hf

structure Waits (v : Scene) (d : Instant) (deeds : List Deed) (u : Scene)
    (early late : List (Nat × Frame)) : Prop where
  passes : Passes v deeds u (early ++ late)
  output : u.output = v.output ++ early ++
    (if d.tick ≤ u.now then [(d.tick, .interrupt .timeout none)] else []) ++ late
  deadline : u.listener.handler.deadline = if d.tick ≤ u.now then none else some d
  before : ∀ e ∈ early, e.1 < d.tick
  after : ∀ e ∈ late, d.tick ≤ e.1

namespace Waits

variable {v u : Scene} {d : Instant} {deeds : List Deed} {early late : List (Nat × Frame)}

theorem nil (hd : v.listener.handler.deadline = some d) (hlt : v.now < d.tick) :
    Waits v d [] v [] [] := by
  have hnot : ¬d.tick ≤ v.now := Nat.not_le.mpr hlt
  exact ⟨.nil v, by simp [hnot], by simp [hnot, hd], by simp, by simp⟩

theorem send {f : Frame} (hc : v.Calm) (hlt : v.now < d.tick) (hf : f.isQuiet = true)
    (h : Waits (v.took f) d deeds u early late) :
    Waits v d (.send f :: deeds) u
      ((v.listener.take v.time f).1.map (v.now, ·) ++ early) late where
  passes := by
    rw [List.append_assoc]
    exact .send hc hf h.passes
  output := by
    rw [h.output]
    simp [took]
  deadline := h.deadline
  before := by
    intro e he
    rcases List.mem_append.mp he with he | he
    · obtain ⟨g, _, rfl⟩ := List.mem_map.mp he
      exact hlt
    · exact h.before e he
  after := h.after

theorem pause {ms : Nat} (hd : v.listener.handler.deadline = some d) (hlt : v.now + ms < d.tick)
    (h : Waits (v.later (v.now + ms)) d deeds u early late) :
    Waits v d (.pause ms :: deeds) u early late := by
  have hidle : ∀ e, v.listener.handler.deadline = some e → v.now + ms < e.tick := by
    intro e he
    obtain rfl : d = e := Option.some.inj (hd.symm.trans he)
    exact hlt
  exact { h with passes := .pause (v.sleep_idle hidle) rfl h.passes }

theorem ring {ms : Nat} (hd : v.listener.handler.deadline = some d) (hlt : v.now < d.tick)
    (hle : d.tick ≤ v.now + ms) (hq : ∀ deed ∈ deeds, deed.isQuiet = true) :
    ∃ (u : Scene) (late : List (Nat × Frame)), Waits v d (.pause ms :: deeds) u [] late := by
  obtain ⟨t, ht⟩ : ∃ t, d.tick = t := ⟨_, rfl⟩
  have hquiet : (v.later t).expired.listener.handler.deadline = none :=
    expired_quiet hd (Nat.le_of_eq ht)
  obtain ⟨u, out, hu, hout, hnone⟩ :=
    perform_idle (v := (v.later t).expired.later (v.now + ms)) hquiet deeds hq
  have hclock : d.tick ≤ u.now := by
    have hnow : u.now = v.now + ms + (deeds.map Deed.duration).sum := hu.clock
    omega
  refine ⟨u, out, ?_, ?_, ?_, by simp, ?_⟩
  · rw [ht] at hlt hle
    exact .pause (v.sleep_expired hd ht hlt hle) rfl hu
  · rw [hout, if_pos hclock]
    simp [later, expired, ht]
  · rw [if_pos hclock]
    exact hnone
  · intro e he
    have hsince : v.now + ms ≤ e.1 := hu.since e he
    exact Nat.le_trans hle hsince

end Waits

theorem perform_waiting {v : Scene} {d : Instant} (hd : v.listener.handler.deadline = some d)
    (hlt : v.now < d.tick) (deeds : List Deed) (hq : ∀ deed ∈ deeds, deed.isQuiet = true) :
    ∃ (u : Scene) (early late : List (Nat × Frame)), Waits v d deeds u early late := by
  induction deeds generalizing v with
  | nil => exact ⟨v, [], [], .nil hd hlt⟩
  | cons deed deeds ih =>
    have hlater : ∀ deed ∈ deeds, deed.isQuiet = true :=
      fun later hlater => hq later (List.mem_cons_of_mem deed hlater)
    have hf := hq deed List.mem_cons_self
    cases deed with
    | send f =>
      have hcalm : v.Calm := by
        intro e he
        obtain rfl : d = e := Option.some.inj (hd.symm.trans he)
        exact hlt
      obtain ⟨u, early, late, hu⟩ :=
        ih (v := v.took f) ((send_quiet hcalm hf).2.trans hd) hlt hlater
      exact ⟨u, _, late, .send hcalm hlt hf hu⟩
    | pause ms =>
      by_cases hle : d.tick ≤ v.now + ms
      · obtain ⟨u, late, hu⟩ := Waits.ring hd hlt hle hlater
        exact ⟨u, [], late, hu⟩
      · have hahead : v.now + ms < d.tick := Nat.not_le.mp hle
        obtain ⟨u, early, late, hu⟩ := ih (v := v.later (v.now + ms)) hd hahead hlater
        exact ⟨u, early, late, .pause hd hahead hu⟩
    | _ => cases hf

/-- What comes of quiet deeds once all tasks have come to rest, whether the deadline had passed by
then, is still ahead, or there is none. -/
theorem perform_settled (v : Scene) (deeds : List Deed) (hq : ∀ deed ∈ deeds, deed.isQuiet = true) :
    let deadline := v.listener.handler.deadline
    ∃ (u : Scene) (early late : List (Nat × Frame)), Passes v.settled deeds u (early ++ late) ∧
      v.settled.now = v.now ∧
      u.output = v.output ++ early ++ timeouts v.now u.now deadline ++ late ∧
      u.listener.handler.deadline = outstanding v.now u.now deadline ∧
      ∀ d, deadline = some d →
        (∀ e ∈ early, e.1 < max v.now d.tick) ∧ ∀ e ∈ late, max v.now d.tick ≤ e.1 := by
  intro deadline
  rcases v.calm_or_due with hc | ⟨d, hd, hle⟩
  · rw [calm_settled hc]
    cases hd : deadline with
    | none =>
      obtain ⟨u, out, hu, hout, hnone⟩ := perform_idle hd deeds hq
      refine ⟨u, out, [], ?_, rfl, ?_, hnone, by simp⟩
      · rw [List.append_nil]
        exact hu
      · rw [hout, timeouts, List.append_nil, List.append_nil]
    | some d =>
      have hlt : v.now < d.tick := hc d hd
      have hmax : max v.now d.tick = d.tick := Nat.max_eq_right (Nat.le_of_lt hlt)
      obtain ⟨u, early, late, hwaits⟩ := perform_waiting hd hlt deeds hq
      refine ⟨u, early, late, hwaits.passes, rfl, ?_, ?_, ?_⟩
      · rw [hwaits.output, timeouts, hmax]
      · rw [hwaits.deadline, outstanding, hmax]
      · intro e he
        obtain rfl := Option.some.inj he
        rw [hmax]
        exact ⟨hwaits.before, hwaits.after⟩
  · -- The deadline had passed already when it was set.
    have hdeadline : deadline = some d := hd
    have hmax : max v.now d.tick = v.now := Nat.max_eq_left hle
    rw [due_settled hd hle, hdeadline]
    obtain ⟨u, out, hu, hout, hnone⟩ := perform_idle (expired_quiet hd hle) deeds hq
    have hclock : v.now ≤ u.now := hu.clock ▸ Nat.le_add_right _ _
    refine ⟨u, [], out, hu, rfl, ?_, ?_, ?_⟩
    · rw [hout, timeouts, hmax, if_pos hclock, expired, List.append_nil]
    · rw [outstanding, hmax, if_pos hclock]
      exact hnone
    · intro e he
      obtain rfl := Option.some.inj he
      rw [hmax]
      exact ⟨by simp, hu.since⟩

end Scene

/-- What comes of a frame that is not quiet and of quiet deeds after it: `done` is the run `r` after
them, and `timeout` is how long a possible interruption waits. -/
structure Concludes (timeout : Nat) (r : Run Stage Shared) (f : Frame) (deeds : List Deed)
    (done : Run Stage Shared) (decision : Option Frame) (early late : List (Nat × Frame)) :
    Prop where
  fragment : ∀ g ∈ decision, g.isDecision = true ∧ ∃ x, f = .transcript x
  /-- The decision comes out with its frame, and the end of the wait that it begins on time. -/
  output : done.output = r.output ++ (decision.toList ++ [f]).map (r.now, ·) ++ early ++
    timeouts r.now done.now (decision.bind awaited) ++ late
  heard : voicedAll (early ++ late) = echoes r.now deeds
  around : ∀ d, decision = some (.awaitingConfirmation d) →
    (∀ e ∈ early, e.1 < max r.now d.tick) ∧ ∀ e ∈ late, max r.now d.tick ≤ e.1
  clock : done.now = r.now + (deeds.map Deed.duration).sum
  /-- A deadline stands only until the wait that set it has ended. -/
  pending : done.pending = outstanding r.now done.now (decision.bind awaited)
  /-- A fragment interrupts for a deadline only if one stands and has passed at its own time, or
  if it would set one beyond the last instant. -/
  timely : decision = some (.interrupt .timeout none) → ∃ x, f = .transcript x ∧
    ((∃ d, r.pending = some d ∧ d ≤ x.receivedAt) ∨
      r.pending = none ∧ x.receivedAt.add? timeout = none)

namespace Scene

theorem Steady.concludes {c : Policy.Config} {v : Scene} (h : v.Steady c) {f : Frame}
    (hf : f.isQuiet = false) (deeds : List Deed) (hq : ∀ deed ∈ deeds, deed.isQuiet = true) :
    ∃ decision early late,
      Concludes c.resumeTimeout v.rest f deeds ((v.rest.send f).perform deeds) decision early
        late := by
  have hunspoken : ∀ text, f ≠ .agentSpeech text := by
    rintro text rfl
    cases hf
  obtain ⟨decision, hcall, hdecides⟩ := call_decides v.listener hf h.permitted
  have htook : v.took f = { v with
      listener := (v.listener.call (.process f)).2
      output := v.output ++ (decision.toList ++ [f]).map (v.now, ·) } := by
    simp only [took, v.listener.take_unspoken v.time hunspoken, hcall]
  have htimely := hdecides.timely
  rw [show v.listener.handler.policy.config = c from h.config] at htimely
  have hdeadline : (v.took f).listener.handler.deadline = decision.bind awaited := by
    rw [htook]
    exact hdecides.deadline
  have houtput : (v.took f).output = v.output ++ (decision.toList ++ [f]).map (v.now, ·) := by
    rw [htook]
  have hnow : (v.took f).now = v.now := rfl
  obtain ⟨u, early, late, hu, hsettled, hout, hpending, haround⟩ := (v.took f).perform_settled deeds hq
  rw [hnow] at hsettled
  rw [hnow, hdeadline] at hout hpending
  rw [v.send_took h.calm f, hu.perform]
  refine ⟨decision, early, late, hdecides.fragment, ?_, ?_, ?_, ?_, hpending, htimely⟩
  · rw [rest_output, hout, houtput]
    rfl
  · rw [hu.heard, hsettled]
    rfl
  · intro d hd
    exact haround d (hdeadline.trans (awaited_iff.mpr hd))
  · rw [rest_now, hu.clock, hsettled]
    rfl

end Scene

/-- Whatever has been done to the standard chain before, a frame that concerns the utterance leads
to at most one interruption for a deadline: if it sets one, at the first millisecond at or after it
at which the clock is not behind, and else none, until the next such frame. -/
theorem confirmation_times_out (policy : Policy) (conversation : Conversation)
    (before : List Deed) (hbefore : ∀ deed ∈ before, deed.isPaced = true) (f : Frame)
    (hf : f.isQuiet = false) (later : List Deed) (hl : ∀ deed ∈ later, deed.isQuiet = true) :
    let r := (Run.start (interruptionChain policy) conversation 64).perform before
    ∃ decision early late, Concludes policy.config.resumeTimeout r f later
      ((r.send f).perform later) decision early late := by
  intro r
  obtain ⟨v, hv, hsteady⟩ := (Scene.steady_opening policy conversation).perform hbefore
  rw [← Scene.rest_start] at hv
  have hr : r = v.rest := hv
  rw [hr]
  exact hsteady.concludes hf later hl

/-- A filler that is heard 100 ms into an utterance sets a deadline two seconds after its own time;
speech of the agent in between does not put it off, and the pause goes on beyond it. -/
theorem confirmation_times_out_after_filler :
    let policy : Policy :=
      ⟨{ minInterruptionWords := 2 }, .umAndStop, by decide +kernel⟩
    let filler : Frame := .transcript { text := "Um.", receivedAt := ⟨99999999⟩ }
    let later : List Deed := [.pause 500, .send (.agentSpeech "Go on."), .pause 1700]
    let before : List Deed := [.send (.utteranceStarted ⟨0⟩), .pause 100]
    let r := (Run.start (interruptionChain policy) {} 64).perform before
    let done := (r.send filler).perform later
    (∀ deed ∈ before, deed.isPaced = true) ∧ filler.isQuiet = false ∧
      (∀ deed ∈ later, deed.isQuiet = true) ∧
      (∃ decision early late,
        Concludes policy.config.resumeTimeout r filler later done decision early late) ∧
      done.output = [(0, .utteranceStarted ⟨0⟩), (100, .awaitingConfirmation ⟨2099999999⟩),
        (100, filler), (600, .agentSpeech "Go on."), (2100, .interrupt .timeout none)] ∧
      done.now = 2300 := by
  intro policy filler later before r done
  have hbefore : ∀ deed ∈ before, deed.isPaced = true := by decide
  have hf : filler.isQuiet = false := rfl
  have hl : ∀ deed ∈ later, deed.isQuiet = true := by decide
  have hdone : done.output = [(0, .utteranceStarted ⟨0⟩),
      (100, .awaitingConfirmation ⟨2099999999⟩), (100, filler), (600, .agentSpeech "Go on."),
      (2100, .interrupt .timeout none)] ∧ done.now = 2300 := by
    decide +kernel
  exact ⟨hbefore, hf, hl, confirmation_times_out policy {} before hbefore filler hf later hl, hdone⟩

end Pipeline

end BargeIn
