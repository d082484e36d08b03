import BargeIn.Proofs.Pipeline.Commuting
import BargeIn.Proofs.Run.Feeding

/-!
# Nothing follows the end of the stream

The handler forgets its session when it takes the end of the stream, so no deadline is left that
could be served behind it. In whatever order the tasks of the standard chain go on, the end of the
stream stays the last of all frames that have come in.
-/

set_option autoImplicit false

namespace BargeIn

theorem Frame.Kin.unended {f g : Frame} (h : f.Kin g) (hf : f.isEndOfStream = false) :
    g.isEndOfStream = false := by
  cases hg : g.isEndOfStream with
  | false => rfl
  | true =>
    rw [h.atEnd hg] at hf
    cases hf

namespace Pipeline

/-- The end of the stream is the last of these frames, if it is one of them. -/
def Unfollowed (frames : List Frame) : Prop :=
  frames.Pairwise fun f _ => f.isEndOfStream = false

namespace Unfollowed

theorem before {frames later : List Frame} {f : Frame} (h : Unfollowed (frames ++ f :: later)) :
    ∀ g ∈ frames, g.isEndOfStream = false :=
  fun g hg => (List.pairwise_append.mp h).2.2 g hg f List.mem_cons_self

theorem after {frames later : List Frame} (h : Unfollowed (frames ++ later)) : Unfollowed later :=
  (List.pairwise_append.mp h).2.1

theorem extend {frames later : List Frame} (hframes : ∀ f ∈ frames, f.isEndOfStream = false)
    (hlater : Unfollowed later) : Unfollowed (frames ++ later) :=
  List.pairwise_append.mpr ⟨List.pairwise_of_forall_mem_list fun f hf _ _ => hframes f hf, hlater,
    fun f hf _ _ => hframes f hf⟩

theorem insert {frames later : List Frame} {f g : Frame} (h : Unfollowed (frames ++ f :: later))
    (hg : g.isEndOfStream = false) : Unfollowed (frames ++ g :: f :: later) :=
  .extend h.before (.cons (fun _ _ => hg) h.after)

theorem replace {frames out later : List Frame} {f : Frame}
    (h : Unfollowed (frames ++ f :: later)) (hend : f.isEndOfStream = true → out = [f])
    (hout : f.isEndOfStream = false → ∀ g ∈ out, g.isEndOfStream = false) :
    Unfollowed (frames ++ (out ++ later)) := by
  cases hf : f.isEndOfStream with
  | true =>
    rw [hend hf]
    exact h
  | false =>
    have hlater : Unfollowed later := (List.pairwise_cons.mp h.after).2
    exact extend h.before (extend (hout hf) hlater)

end Unfollowed

theorem Stage.emitted_kin (stage : Stage) (w : Shared) (c : Conversation) (now : Instant)
    (f : Frame) : ∀ g ∈ Run.emitted stage (stage.process w c now f).result, f.Kin g := by
  obtain ⟨c', hc⟩ := stage.process_heedless w c now f
  rw [hc]
  exact stage.call_kin now f w

theorem SharedHandler.expire_unended (h : SharedHandler) (w : Shared) (now : Instant) :
    ∀ f ∈ (h.expire w now).1, f.isEndOfStream = false := by
  intro f hf
  obtain ⟨config, enabled, valid, place, session⟩ := h
  cases session with
  | none => cases hf
  | some session =>
    have hinert : f.isInert = true := by
      obtain ⟨decision, _, hframe⟩ := Option.bind_eq_some_iff.mp (Option.mem_toList.mp hf)
      exact Decision.frame_inert (Option.mem_toList.mpr hframe)
    cases f with
    | endOfStream => cases hinert
    | _ => rfl

namespace Run

/-- Nothing follows the end of the stream among the frames that came out, those at the filter, those
at the handler and those still to be sent. Once the handler has taken it there is no session. -/
structure Streams (later : List Frame) (r : Run Stage Shared) (h : SharedHandler)
    (first second : Station Stage) : Prop where
  stations : r.stations = [first, second]
  handler : first.stage = .handler h
  filter : second.stage = .filter
  unfollowed : Unfollowed (r.output.map (·.2) ++ (second.task.owed ++ second.inbox) ++
    (first.task.owed ++ (first.inbox ++ later)))
  spent : h.session = none ∨ ∀ f ∈ r.output.map (·.2) ++ (second.task.owed ++ second.inbox) ++
    first.task.owed, f.isEndOfStream = false

namespace Streams

variable {later : List Frame} {r v : Run Stage Shared} {h : SharedHandler}
  {first second : Station Stage}

theorem first_takes (hs : Streams later r h first second) {f : Frame} {fs : List Frame}
    (ht : first.task = .waiting) (hf : first.inbox = f :: fs)
    (hv : v.stations = [called first
      (Processor.process first.stage r.world first.conversation r.time f) fs f.isEndOfStream, second])
    (hout : v.output = r.output) : ∃ h first second, Streams later v h first second := by
  have howed : first.task.owed = [] := by simp [ht, Task.owed]
  have hall := hs.unfollowed
  rw [howed, hf, List.nil_append, ← hout] at hall
  have hstage := hs.handler
  let out := emitted first.stage
    (Processor.process first.stage r.world first.conversation r.time f).result
  have hkin : ∀ g ∈ out, f.Kin g := first.stage.emitted_kin r.world first.conversation r.time f
  have hend : f.isEndOfStream = true → out = [f] ∧
      (h.process r.world first.conversation f).2.1.session = none := by
    intro he
    cases f with
    | endOfStream => exact ⟨by simp only [out, hstage]; rfl, rfl⟩
    | _ => cases he
  refine ⟨(h.process r.world first.conversation f).2.1, _, second, hv, ?_, hs.filter,
    hall.replace (fun he => (hend he).1) (fun hf g hg => (hkin g hg).unended hf), ?_⟩
  · simp only [called, hstage]
    rfl
  · cases hf : f.isEndOfStream with
    | true => exact .inl (hend hf).2
    | false =>
      refine .inr fun g hg => ?_
      rcases List.mem_append.mp hg with hg | hg
      · exact hall.before g hg
      · exact (hkin g hg).unended hf

/-- A deadline is due only as long as the handler has not taken the end of the stream. -/
theorem first_expires (hs : Streams later r h first second) (ht : first.task = .waiting)
    (hd : r.Due first.stage)
    (hv : v.stations = [called first
      (Processor.expire first.stage r.world first.conversation r.time) [] false, second])
    (hf : first.inbox = []) (hout : v.output = r.output) :
    ∃ h first second, Streams later v h first second := by
  have howed : first.task.owed = [] := by simp [ht, Task.owed]
  have hstage := hs.handler
  have hsession : h.session ≠ none := by
    intro hnone
    obtain ⟨d, hdeadline, _⟩ := hd
    rw [hstage] at hdeadline
    have hnever : (Stage.handler h).deadline = none := by
      simp [Stage.deadline, SharedHandler.deadline, hnone]
    cases hnever.symm.trans hdeadline
  have hbefore := hs.spent.resolve_left hsession
  have hlater := hs.unfollowed.after
  rw [howed, List.append_nil, ← hout] at hbefore
  rw [howed, hf, List.nil_append, List.nil_append] at hlater
  have hexpire : (called first (Processor.expire first.stage r.world first.conversation r.time)
      [] false).task.owed = (h.expire r.world r.time).1 := by
    simp only [called, hstage]
    rfl
  have hnew : ∀ f ∈ (h.expire r.world r.time).1, f.isEndOfStream = false :=
    h.expire_unended r.world r.time
  refine ⟨(h.expire r.world r.time).2, _, second, hv, ?_, hs.filter, ?_, .inr ?_⟩
  · simp only [called, hstage]
    rfl
  · rw [hexpire]
    exact .extend hbefore (.extend hnew hlater)
  · rw [hexpire]
    exact fun f hf => (List.mem_append.mp hf).elim (hbefore f) (hnew f)

theorem first_hands (hs : Streams later r h first second) {f : Frame} {fs : List Frame}
    {atEnd : Bool} (ht : first.task = .delivering (f :: fs) atEnd)
    (hv : v.stations = [{ first with task := .delivering fs atEnd },
      { second with inbox := second.inbox ++ [f] }])
    (hout : v.output = r.output) : ∃ h first second, Streams later v h first second := by
  have hunfollowed := hs.unfollowed
  have hspent := hs.spent
  rw [ht, ← hout] at hunfollowed hspent
  refine ⟨h, _, _, hv, hs.handler, hs.filter, ?_, ?_⟩
  · simpa [Task.owed] using hunfollowed
  · simpa [Task.owed] using hspent

theorem first_moves (hs : Streams later r h first second) (hflowing : r.Flowing) {goesOn : Bool}
    (hm : Moves r 0 first v goesOn) : ∃ h first second, Streams later v h first second := by
  have hset : ∀ s, r.stations.set 0 s = [s, second] := by simp [hs.stations]
  cases hm with
  | stays | sleeps => exact ⟨h, first, second, hs.stations, hs.handler, hs.filter, hs.unfollowed,
      hs.spent⟩
  | begins ht =>
    have howed : first.task.owed = [] := by simp [ht, Task.owed]
    have hkept := hs.unfollowed
    rw [howed] at hkept
    exact ⟨{ h with session := none }, _, second, hset _, by rw [told, hs.handler]; rfl, hs.filter,
      hkept, .inl rfl⟩
  | takes ht hf => exact hs.first_takes ht hf (hset _) rfl
  | expires ht hf _ hd => exact hs.first_expires ht hd (hset _) hf rfl
  | @hands _ _ _ next _ ht hn =>
    obtain rfl : second = next := by simpa [hs.stations] using hn
    exact hs.first_hands ht (by simp [update, roused, hs.stations]) rfl
  | emits ht hn => simp [hs.stations] at hn
  | @returns atEnd ht =>
    have howed : first.task.owed = [] := by simp [ht, Task.owed]
    have hkept := hs.unfollowed
    have hspent := hs.spent
    rw [howed] at hkept hspent
    cases atEnd with
    | false => exact ⟨h, _, second, hset _, hs.handler, hs.filter, hkept, hspent⟩
    | true =>
      refine ⟨{ h with session := none }, _, second, hset _, ?_, hs.filter, hkept, .inl rfl⟩
      simp only [told, stopped, hs.handler]
      rfl
  | halts hends => exact (hflowing.never_halts (i := 0) (by simp [hs.stations]) hends).elim

theorem second_takes (hs : Streams later r h first second) {f : Frame} {fs : List Frame}
    (ht : second.task = .waiting) (hf : second.inbox = f :: fs)
    (hv : v.stations = [first, called second
      (Processor.process second.stage r.world second.conversation r.time f) fs f.isEndOfStream])
    (hout : v.output = r.output) : ∃ h first second, Streams later v h first second := by
  have howed : second.task.owed = [] := by simp [ht, Task.owed]
  have hall := hs.unfollowed
  have hspent := hs.spent
  rw [howed, hf, List.nil_append, ← hout] at hall hspent
  simp only [List.append_assoc, List.cons_append] at hall
  have hstage := hs.filter
  let out := emitted second.stage
    (Processor.process second.stage r.world second.conversation r.time f).result
  have hkin : ∀ g ∈ out, f.Kin g := second.stage.emitted_kin r.world second.conversation r.time f
  have hend : f.isEndOfStream = true → out = [f] := by
    intro he
    cases f with
    | endOfStream => simp only [out, hstage]; rfl
    | _ => cases he
  refine ⟨h, first, _, hv, hs.handler, ?_, ?_, hspent.imp_right ?_⟩
  · simp only [called, hstage]
    rfl
  · have hreplaced := hall.replace hend fun hf g hg => (hkin g hg).unended hf
    simpa [called, Task.owed, out] using hreplaced
  · intro hnone g hg
    have hf : f.isEndOfStream = false := hnone f (by simp)
    simp only [List.mem_append] at hg hnone
    rcases hg with (hg | hg | hg) | hg
    · exact hnone g (.inl (.inl hg))
    · exact (hkin g hg).unended hf
    · exact hnone g (.inl (.inr (List.mem_cons_of_mem f hg)))
    · exact hnone g (.inr hg)

theorem second_moves (hs : Streams later r h first second) (hflowing : r.Flowing) {goesOn : Bool}
    (hm : Moves r 1 second v goesOn) : ∃ h first second, Streams later v h first second := by
  have hset : ∀ s, r.stations.set 1 s = [first, s] := by simp [hs.stations]
  cases hm with
  | stays | sleeps => exact ⟨h, first, second, hs.stations, hs.handler, hs.filter, hs.unfollowed,
      hs.spent⟩
  | begins ht =>
    have howed : second.task.owed = [] := by simp [ht, Task.owed]
    have hkept := hs.unfollowed
    have hspent := hs.spent
    rw [howed] at hkept hspent
    exact ⟨h, first, _, hset _, hs.handler, by rw [told, hs.filter]; rfl, hkept, hspent⟩
  | takes ht hf => exact hs.second_takes ht hf (hset _) rfl
  | expires ht hf he hd =>
    obtain ⟨d, hdeadline, _⟩ := hd
    rw [hs.filter] at hdeadline
    cases hdeadline
  | hands ht hn => simp [hs.stations] at hn
  | @emits f fs atEnd ht hn =>
    have hunfollowed := hs.unfollowed
    have hspent := hs.spent
    rw [ht] at hunfollowed hspent
    refine ⟨h, first, _, hset { second with task := .delivering fs atEnd }, hs.handler, hs.filter,
      ?_, ?_⟩
    · simpa [update, Task.owed] using hunfollowed
    · simpa [update, Task.owed] using hspent
  | @returns atEnd ht =>
    have howed : second.task.owed = [] := by simp [ht, Task.owed]
    have hkept := hs.unfollowed
    have hspent := hs.spent
    rw [howed] at hkept hspent
    refine ⟨h, first, _, hset _, hs.handler, ?_, hkept, hspent⟩
    cases atEnd <;> simp only [told, stopped, hs.filter] <;> rfl
  | halts hends => exact (hflowing.never_halts (i := 1) (by simp [hs.stations]) hends).elim

theorem step (hs : Streams later r h first second) (hflowing : r.Flowing)
    (hstep : r.step = some v) : ∃ h first second, Streams later v h first second := by
  obtain ⟨i, rest, hr, ⟨hn, rfl⟩ | ⟨s, v, goesOn, hi, hm, rfl⟩⟩ := step_cases hstep
  · exact ⟨h, first, second, hs.stations, hs.handler, hs.filter, hs.unfollowed, hs.spent⟩
  · have hhushed : Streams later (r.hushed i) h first second :=
      ⟨hs.stations, hs.handler, hs.filter, hs.unfollowed, hs.spent⟩
    obtain ⟨h', first', second', hmoved⟩ :
        ∃ h first second, Streams later v h first second := by
      rw [hs.stations] at hi
      match i, hi with
      | 0, hi =>
        obtain rfl : first = s := by simpa using hi
        exact hhushed.first_moves (hflowing.hushed 0) hm
      | 1, hi =>
        obtain rfl : second = s := by simpa using hi
        exact hhushed.second_moves (hflowing.hushed 1) hm
    refine ⟨h', first', second', ?_⟩
    cases goesOn <;> exact ⟨hmoved.stations, hmoved.handler, hmoved.filter, hmoved.unfollowed,
      hmoved.spent⟩

theorem posted (hs : Streams later r h first second) {f : Frame} {next : List Frame}
    (hlater : Unfollowed (r.output.map (·.2) ++ (second.task.owed ++ second.inbox) ++
      (first.task.owed ++ (first.inbox ++ f :: next)))) :
    ∃ first, Streams next (r.posted f) h first second := by
  obtain ⟨woken, hposted⟩ := posted_eq (r := r) (s := first) (by simp [hs.stations]) f
  rw [hposted]
  refine ⟨{ first with inbox := first.inbox ++ [f] }, ?_, hs.handler, hs.filter, ?_, hs.spent⟩
  · simp [roused, update, hs.stations]
  · simpa [roused, update] using hlater

theorem unstarted (policy : Policy) (conversation : Conversation) (capacity : Nat) :
    ∃ first second, Streams [.endOfStream]
      (Run.unstarted (interruptionChain policy) conversation capacity) (.ofPolicy policy 0) first
        second :=
  ⟨_, _, rfl, rfl, rfl, List.pairwise_singleton _ _, .inl rfl⟩

end Streams

end Run

/-! ## Feeding the standard chain -/

def Feeder.last {ι : Type} : Feeder ι → List Frame
  | .done => []
  | _ => [.endOfStream]

structure Streaming {ι : Type} (s : Feeding Stage Shared ι) : Prop where
  flowing : s.run.Flowing
  streams : ∃ h first second, Run.Streams s.feeder.last s.run h first second
  sending : ∀ f inputs, s.feeder = .sending f inputs →
    (f = .endOfStream ∧ inputs = none) ∨ f.isEndOfStream = false ∧ inputs.isSome

namespace Streaming

variable {ι : Type} {order : Nat → ι → Order} {s t : Feeding Stage Shared ι}

theorem aside (h : Streaming s) {r : Run Stage Shared} (hflowing : r.Flowing)
    (hstations : r.stations = s.run.stations) (hout : r.output = s.run.output) :
    Streaming { s with run := r } := by
  obtain ⟨handler, first, second, hs⟩ := h.streams
  exact ⟨hflowing, ⟨handler, first, second, hstations.trans hs.stations, hs.handler, hs.filter,
    hout ▸ hs.unfollowed, hout ▸ hs.spent⟩, h.sending⟩

theorem sent {r : Run Stage Shared} {f : Frame} {inputs : Option (List ι)}
    (h : Streaming ⟨r, .sending f inputs⟩) :
    Streaming ⟨r.posted f, (inputs.map .ready).getD .done⟩ := by
  obtain ⟨handler, first, second, hs⟩ := h.streams
  rcases h.sending f inputs rfl with ⟨rfl, rfl⟩ | ⟨hf, hsome⟩
  · obtain ⟨first', hs'⟩ : ∃ first', Run.Streams [] _ handler first' second :=
      hs.posted hs.unfollowed
    exact ⟨h.flowing.posted _, ⟨handler, first', second, hs'⟩, by simp⟩
  · obtain ⟨inputs, rfl⟩ := Option.isSome_iff_exists.mp hsome
    have hunfollowed := hs.unfollowed
    simp only [← List.append_assoc] at hunfollowed
    obtain ⟨first', hs'⟩ : ∃ first', Run.Streams [.endOfStream] _ handler first' second :=
      hs.posted (by simpa only [← List.append_assoc] using hunfollowed.insert hf)
    exact ⟨h.flowing.posted f, ⟨handler, first', second, hs'⟩, by simp⟩

theorem feed (h : Streaming s)
    (horder : ∀ now i f, order now i = .send f → f.isEndOfStream = false)
    (hstep : s.feed order = some t) : Streaming t := by
  obtain ⟨handler, first, second, hs⟩ := h.streams
  obtain ⟨r, fd⟩ := s
  cases fd with
  | ready inputs =>
    cases inputs with
    | nil =>
      obtain rfl := Option.some.inj hstep
      exact ⟨h.flowing, ⟨handler, first, second, hs⟩, by simp⟩
    | cons i inputs =>
      obtain rfl := Option.some.inj hstep
      refine ⟨h.flowing, ⟨handler, first, second, ?_⟩, ?_⟩
      · cases order r.now i <;> exact hs
      · intro f rest hsend
        cases ho : order r.now i with
        | send g =>
          simp only [ho, Feeder.sending.injEq] at hsend
          obtain ⟨rfl, rfl⟩ := hsend
          exact .inr ⟨horder r.now i g ho, rfl⟩
        | _ => simp [ho] at hsend
  | asleep target inputs =>
    have hawake : some ⟨r, .ready inputs⟩ = some t := by
      by_cases hle : target ≤ r.now
      · simpa [Feeding.feed, hle] using hstep
      · simp [Feeding.feed, hle] at hstep
    obtain rfl := Option.some.inj hawake
    exact ⟨h.flowing, ⟨handler, first, second, hs⟩, by simp⟩
  | sending f inputs =>
    simp only [Feeding.feed] at hstep
    cases hentry : r.entry with
    | full => simp [hentry] at hstep
    | closed =>
      have hstations : r.stations = [first, second] := hs.stations
      exact absurd hentry (h.flowing.entry_not_closed (s := first) (by simp [hstations]))
    | accepted =>
      simp only [hentry, Option.some.injEq] at hstep
      subst hstep
      exact h.sent
  | done => cases hstep

theorem step (h : Streaming s)
    (horder : ∀ now i f, order now i = .send f → f.isEndOfStream = false) {c : Choice}
    (hstep : s.step order c = some t) : Streaming t := by
  cases c with
  | turn =>
    obtain rfl := Option.some.inj hstep
    rcases s.run.turn_cases with hturn | ⟨_, hturn⟩
    · obtain ⟨_, _, _, hs⟩ := h.streams
      exact ⟨h.flowing.step hturn, hs.step h.flowing hturn, h.sending⟩
    · rw [hturn]
      exact h
  | defer =>
    obtain rfl := Option.some.inj hstep
    obtain ⟨ready, hdefer, hready⟩ := s.run.defer_eq
    rw [hdefer]
    exact h.aside (h.flowing.aside hready s.run.now) rfl rfl
  | read frames =>
    obtain rfl := Option.some.inj hstep
    obtain ⟨woken, hread⟩ := s.run.read_eq frames
    have hflowing := h.flowing.read frames
    rw [hread] at hflowing ⊢
    exact h.aside hflowing rfl rfl
  | feed => exact h.feed horder hstep
  | pass ms =>
    by_cases hw : s.Waits order ms
    · simp only [Feeding.step, if_pos hw, Option.some.injEq] at hstep
      subst hstep
      obtain ⟨woken, hwoken, _⟩ := s.run.wakeAll_eq (s.run.alarms.filter (·.1 ≤ ms))
      have hrung : s.run.rung ms = { s.run.roused woken with now := ms } :=
        congrArg (fun r : Run Stage Shared => { r with now := ms }) hwoken
      rw [hrung]
      exact h.aside (h.flowing.aside (fun _ hi => List.mem_append_left woken hi) ms) rfl rfl
    · simp [Feeding.step, hw] at hstep

end Streaming

/-- In whatever order a chain is fed and its tasks go on, nothing comes out behind the end of the
stream. -/
theorem attains_unfollowed {ι : Type} {order : Nat → ι → Order}
    (horder : ∀ now i f, order now i = .send f → f.isEndOfStream = false) {policy : Policy}
    {conversation : Conversation} {capacity : Nat} (hcapacity : 0 < capacity) {inputs : List ι}
    {r : Run Stage Shared} {ended : Bool}
    (h : Feeding.Attains order (.unstarted (interruptionChain policy) conversation capacity) inputs
      r ended) : Unfollowed (r.output.map (·.2)) := by
  obtain ⟨s, hs, rfl, _⟩ := Feeding.attains_iff.mp h
  have hfirst : Streaming (⟨.unstarted (interruptionChain policy) conversation capacity,
      .ready inputs⟩ : Feeding Stage Shared ι) := by
    obtain ⟨first, second, hstreams⟩ := Run.Streams.unstarted policy conversation capacity
    exact ⟨.unstarted _ conversation hcapacity, ⟨_, first, second, hstreams⟩, by simp⟩
  have hstreaming : Streaming s := hs.keeps (fun _ _ _ h hstep => h.step horder hstep) hfirst
  obtain ⟨_, _, _, hstreams⟩ := hstreaming.streams
  exact (List.pairwise_append.mp (List.pairwise_append.mp hstreams.unfollowed).1).1

end Pipeline

end BargeIn
