import BargeIn.Proofs.Pipeline.Stages
import BargeIn.Proofs.Run.Closing
import BargeIn.Proofs.Run.Recording

/-!
# What stages receive and send

The records of a running chain add up: all that a stage sends goes to the next in the order in
which it is sent, and nothing else does. So a call that fails costs no frame but the one it is
about, and its error goes on as any other frame does.
-/

set_option autoImplicit false

namespace BargeIn.Pipeline

variable {σ ω : Type}

variable [Processor σ ω]

/-! ## Records add up -/

/-- What has come to a station is recorded or waits, and what its stage has sent is passed on or
waits for delivery. -/
structure Balances (incoming : List Frame) (s : Station (Recorder σ)) (passed : List Frame) :
    Prop where
  received : incoming = s.stage.received ++ s.inbox
  sent : s.stage.sent = passed ++ s.task.owed

theorem Balances.call {incoming passed : List Frame} {s : Station (Recorder σ)}
    (h : Balances incoming s passed) (howed : s.task.owed = []) {entry : Entry σ} {task : Task}
    {inbox : List Frame} (hframe : entry.frame.toList ++ inbox = s.inbox)
    (hsent : entry.sent = task.owed) (stage : σ) (conversation : Conversation) :
    Balances incoming ⟨⟨stage, s.stage.record ++ [entry]⟩, conversation, inbox, task⟩ passed := by
  constructor
  · have hentry : [entry].filterMap Entry.frame = entry.frame.toList := by
      cases entry <;> rfl
    rw [h.received, ← hframe, Recorder.received, Recorder.received, List.filterMap_append, hentry,
      List.append_assoc]
  · have hmade := h.sent
    rw [howed, List.append_nil] at hmade
    simp only [Recorder.sent, List.flatMap_append] at hmade ⊢
    rw [hmade]
    simp [hsent]

def Accounts : List Frame → List (Station (Recorder σ)) → List Frame → Prop
  | incoming, [], outgoing => incoming = outgoing
  | incoming, s :: later, outgoing =>
    ∃ passed, Balances incoming s passed ∧ Accounts passed later outgoing

/-- Stages receive what the ones before them have sent. -/
def Relays : List Frame → List (Recorder σ) → List Frame → Prop
  | incoming, [], outgoing => incoming = outgoing
  | incoming, s :: later, outgoing => s.received = incoming ∧ Relays s.sent later outgoing

namespace Accounts

variable {incoming outgoing : List Frame} {stations : List (Station (Recorder σ))}

theorem set (h : Accounts incoming stations outgoing) {i : Nat} {s s' : Station (Recorder σ)}
    (hs : stations[i]? = some s)
    (hbalance : ∀ incoming passed, Balances incoming s passed → Balances incoming s' passed) :
    Accounts incoming (stations.set i s') outgoing := by
  induction stations generalizing incoming i with
  | nil => cases hs
  | cons t later ih =>
    obtain ⟨passed, ht, hlater⟩ := h
    cases i with
    | zero =>
      obtain rfl : t = s := Option.some.inj hs
      exact ⟨passed, hbalance incoming passed ht, hlater⟩
    | succ i => exact ⟨passed, ht, ih hlater hs⟩

theorem join (h : Accounts incoming stations outgoing) {s : Station (Recorder σ)}
    (hs : stations[0]? = some s) (f : Frame) :
    Accounts (incoming ++ [f]) (stations.set 0 { s with inbox := s.inbox ++ [f] }) outgoing := by
  cases stations with
  | nil => cases hs
  | cons t later =>
    obtain rfl : t = s := Option.some.inj hs
    obtain ⟨passed, ht, hlater⟩ := h
    refine ⟨passed, ⟨?_, ht.sent⟩, hlater⟩
    rw [ht.received, List.append_assoc]

theorem pay {incoming passed : List Frame} {s : Station (Recorder σ)}
    (h : Balances incoming s passed) {f : Frame} {fs : List Frame} {atEnd : Bool}
    (ht : s.task = .delivering (f :: fs) atEnd) :
    Balances incoming { s with task := .delivering fs atEnd } (passed ++ [f]) := by
  refine ⟨h.received, ?_⟩
  have hsent := h.sent
  rw [ht] at hsent
  simpa [Task.owed] using hsent

theorem hand (h : Accounts incoming stations outgoing) {i : Nat} {s next : Station (Recorder σ)}
    (hs : stations[i]? = some s) (hn : stations[i + 1]? = some next) {f : Frame}
    {fs : List Frame} {atEnd : Bool} (ht : s.task = .delivering (f :: fs) atEnd) :
    Accounts incoming ((stations.set (i + 1) { next with inbox := next.inbox ++ [f] }).set i
      { s with task := .delivering fs atEnd }) outgoing := by
  induction stations generalizing incoming i with
  | nil => cases hs
  | cons t later ih =>
    obtain ⟨passed, hbalance, hlater⟩ := h
    cases i with
    | zero =>
      -- What this station has passed on grows by the frame that the next one has to take.
      obtain rfl : t = s := Option.some.inj hs
      exact ⟨passed ++ [f], pay hbalance ht, hlater.join hn f⟩
    | succ i => exact ⟨passed, hbalance, ih hlater hs hn⟩

theorem emit (h : Accounts incoming stations outgoing) {i : Nat} {s : Station (Recorder σ)}
    (hs : stations[i]? = some s) (hn : stations[i + 1]? = none) {f : Frame}
    {fs : List Frame} {atEnd : Bool} (ht : s.task = .delivering (f :: fs) atEnd) :
    Accounts incoming (stations.set i { s with task := .delivering fs atEnd })
      (outgoing ++ [f]) := by
  induction stations generalizing incoming i with
  | nil => cases hs
  | cons t later ih =>
    obtain ⟨passed, hbalance, hlater⟩ := h
    cases i with
    | zero =>
      obtain rfl : t = s := Option.some.inj hs
      obtain rfl : later = [] := by simpa using hn
      obtain rfl : passed = outgoing := hlater
      exact ⟨passed ++ [f], pay hbalance ht, rfl⟩
    | succ i => exact ⟨passed, hbalance, ih hlater hs hn⟩

/-- Nothing waits in a chain at rest. -/
theorem relays (h : Accounts incoming stations outgoing)
    (hrest : ∀ s ∈ stations, Run.AtRest s) :
    Relays incoming (stations.map (·.stage)) outgoing := by
  induction stations generalizing incoming with
  | nil => exact h
  | cons s later ih =>
    obtain ⟨passed, hbalance, hlater⟩ := h
    obtain ⟨htask, hinbox⟩ := hrest s List.mem_cons_self
    have howed : s.task.owed = [] := by simp [htask, Task.owed]
    have hreceived := hbalance.received
    have hsent := hbalance.sent
    rw [hinbox, List.append_nil] at hreceived
    rw [howed, List.append_nil] at hsent
    have hrelays := ih hlater fun t ht => hrest t (List.mem_cons_of_mem s ht)
    exact ⟨hreceived.symm, hsent ▸ hrelays⟩

end Accounts

namespace Run

variable {r v : Run (Recorder σ) ω} {incoming : List Frame} {i : Nat} {s : Station (Recorder σ)}

theorem moves_accounts {outgoing : List Frame} (h : Accounts incoming r.stations outgoing)
    (hflowing : r.Flowing) (hs : r.stations[i]? = some s) {goesOn : Bool}
    (hm : Moves r i s v goesOn) :
    ∃ out, v.output = r.output ++ out ∧ Accounts incoming v.stations (outgoing ++ out.map (·.2)) := by
  have hquiet : ∀ {stations : List (Station (Recorder σ))}, Accounts incoming stations outgoing →
      ∃ out : List (Nat × Frame), r.output = r.output ++ out ∧
        Accounts incoming stations (outgoing ++ out.map (·.2)) :=
    fun haccounts => ⟨[], by simp, by simpa using haccounts⟩
  cases hm with
  | stays | sleeps => exact hquiet h
  | begins ht =>
    have howed : s.task.owed = [] := by simp [ht, Task.owed]
    exact hquiet (h.set hs fun _ _ hb => hb.call howed (by rfl) (by rfl) _ _)
  | takes ht hf =>
    have howed : s.task.owed = [] := by simp [ht, Task.owed]
    exact hquiet (h.set hs fun _ _ hb => hb.call howed hf.symm (Entry.took_sent _ _ _) _ _)
  | expires ht hf =>
    have howed : s.task.owed = [] := by simp [ht, Task.owed]
    exact hquiet (h.set hs fun _ _ hb => hb.call howed hf.symm (Entry.served_sent _ _) _ _)
  | hands ht hn => exact hquiet (h.hand hs hn ht)
  | emits ht hn => exact ⟨_, rfl, h.emit hs hn ht⟩
  | @returns atEnd ht =>
    have howed : s.task.owed = [] := by simp [ht, Task.owed]
    apply hquiet
    apply h.set hs
    intro incoming passed hb
    cases atEnd with
    | true => exact hb.call howed (by rfl) (by rfl) _ _
    | false =>
      have hsent := hb.sent
      rw [howed] at hsent
      exact ⟨hb.received, hsent⟩
  | halts hends => exact (hflowing.never_halts hs hends).elim

theorem step_accounts {outgoing : List Frame} (h : Accounts incoming r.stations outgoing)
    (hflowing : r.Flowing) (hstep : r.step = some v) :
    ∃ out, v.output = r.output ++ out ∧
      Accounts incoming v.stations (outgoing ++ out.map (·.2)) := by
  obtain ⟨i, rest, hr, ⟨hn, rfl⟩ | ⟨s, v, goesOn, hs, hm, rfl⟩⟩ := step_cases hstep
  · exact ⟨[], by simp [hushed], by simpa [hushed] using h⟩
  · have hmoved := moves_accounts (r := r.hushed i) h (hflowing.hushed i) hs hm
    cases goesOn <;> exact hmoved

structure Orderly (stages : Nat) (incoming : List Frame) (r : Run (Recorder σ) ω) : Prop where
  flowing : r.Flowing
  length : r.stations.length = stages
  accounts : Accounts incoming r.stations (r.output.map (·.2))

namespace Orderly

variable {stages : Nat}

theorem step {r' : Run (Recorder σ) ω} (h : r.Orderly stages incoming) (hstep : r.step = some r') :
    r'.Orderly stages incoming := by
  obtain ⟨out, hout, haccounts⟩ := step_accounts h.accounts h.flowing hstep
  rw [← List.map_append, ← hout] at haccounts
  exact ⟨h.flowing.step hstep, (step_length hstep).trans h.length, haccounts⟩

theorem posted (h : r.Orderly stages incoming) (hentry : r.entry = .accepted) (f : Frame) :
    (r.posted f).Orderly stages (incoming ++ [f]) := by
  obtain ⟨s, hs, _⟩ := entry_accepted_iff.mp hentry
  obtain ⟨woken, hposted⟩ := posted_eq hs f
  have hflowing := h.flowing.posted f
  rw [hposted] at hflowing ⊢
  exact ⟨hflowing, List.length_set.trans h.length, h.accounts.join hs f⟩

theorem read (h : r.Orderly stages incoming) (frames : Option Nat) :
    (r.read frames).Orderly stages incoming := by
  have hflowing := h.flowing.read frames
  obtain ⟨woken, hread⟩ := r.read_eq frames
  rw [hread] at hflowing ⊢
  exact ⟨hflowing, h.length, h.accounts⟩

theorem persists : Persists (Orderly (σ := σ) (ω := ω) stages) where
  step _ _ _ h hstep := h.step hstep
  aside _ _ _ ms hready h := ⟨h.flowing.aside hready ms, h.length, h.accounts⟩
  posted _ _ f hentry h := h.posted hentry f
  read _ _ frames h := h.read frames

theorem start (chain : Chain σ ω) (conversation : Conversation) {capacity : Nat}
    (hcapacity : 0 < capacity) :
    (Run.start chain.recorded conversation capacity).Orderly chain.stages.length [] := by
  refine persists.settle ⟨.unstarted chain.recorded conversation hcapacity, ?_, ?_⟩
  · simp [unstarted, Chain.recorded]
  · have hfresh : ∀ stages : List σ, Accounts [] ((stages.map ({ stage := · : Recorder σ })).map
        fun stage => ⟨stage, conversation, [], .unstarted⟩) [] := by
      intro stages
      induction stages with
      | nil => rfl
      | cons s later ih => exact ⟨[], ⟨rfl, rfl⟩, ih⟩
    exact hfresh chain.stages

theorem rests [Tame σ] (h : r.Orderly (stages + 1) incoming) (hready : r.ready = [])
    (hroom : r.reader.admits r.capacity ≠ .full) :
    (∀ s ∈ r.stations, AtRest s) ∧
      Relays incoming (r.stations.map (·.stage)) (r.output.map (·.2)) ∧
      r.closeInput.settle.stations = r.stations.map Station.ended ∧
      r.closeInput.settle.output = r.output := by
  have hrest := h.flowing.atRest hready hroom
  have hstations : r.stations ≠ [] := List.ne_nil_of_length_eq_add_one h.length
  exact ⟨hrest, h.accounts.relays hrest, closeInput_rest hrest hready hstations⟩

end Orderly

end Run

/-- What a stage of a running chain sends to the next comes of its calls in their order: the frames
that a call emits, or an error in the stage's name if it fails. Whether calls fail or not, no task
ends while both ends of the chain are open. Once no task can go on and there is room for what comes
out, every frame that was taken has gone through. -/
theorem faults_contained (chain : Chain σ ω) (hchain : chain.stages ≠ [])
    (conversation : Conversation) {capacity : Nat} (hcapacity : 0 < capacity) (deeds : List Deed)
    (hopen : ∀ d ∈ deeds, d.isOpen = true) :
    let first := Run.start chain.recorded conversation capacity
    let r := first.perform deeds
    let incoming := first.taken deeds
    let outgoing := r.output.map (·.2)
    r.plain = (Run.start chain conversation capacity).perform deeds ∧
    Accounts incoming r.stations outgoing ∧
    (∀ s ∈ r.stations, s.isStopped = false) ∧
    (Tame σ → r.ready = [] → r.reader.admits r.capacity ≠ .full →
      (∀ s ∈ r.stations, Run.AtRest s) ∧
      Relays incoming (r.stations.map (·.stage)) outgoing ∧
      r.closeInput.settle.stations = r.stations.map Station.ended ∧
      r.closeInput.settle.output = r.output) ∧
    (Tame σ → (∀ d ∈ deeds, d.isPaced = true) →
      incoming = deeds.filterMap Deed.frame ∧ r.ready = [] ∧ r.reader = .prompt) := by
  intro first r incoming outgoing
  obtain ⟨stages, hlength⟩ : ∃ stages, chain.stages.length = stages + 1 :=
    Nat.exists_eq_succ_of_ne_zero (by simpa using hchain)
  have hfirst : first.Orderly (stages + 1) [] :=
    hlength ▸ Run.Orderly.start chain conversation hcapacity
  have horderly : r.Orderly (stages + 1) incoming := Run.Orderly.persists.perform hfirst hopen
  refine ⟨?_, horderly.accounts, horderly.flowing.running, ?_, ?_⟩
  · rw [Run.plain_perform, Run.plain_start]
  · intro _ hready hroom
    exact horderly.rests hready hroom
  · intro _ hpaced
    have hsteady : first.Steady := .start chain.recorded conversation hcapacity
    have hlast := hsteady.perform hpaced
    have hstations : first.stations ≠ [] := List.ne_nil_of_length_eq_add_one hfirst.length
    exact ⟨hsteady.taken hstations hpaced, hlast.idle, hlast.reader⟩

/-- Both stages fail, the first at its deadline and at both ends of the stream as well. Two frames
wait together, and the reader leaves what comes out until there is no room for more. -/
theorem faults_contained_twice :
    let first : Rule :=
      { name := "first"
        reaction := fun f => if f.kind = "transcript" then .fail else .keep
        alarmAfter := some 5
        alarmFails := true
        startFails := true
        stopFails := true }
    let second : Rule :=
      { name := "second"
        reaction := fun f => if f.kind = "utterance_ended" then .fail else .double }
    let chain : Chain Stage Shared := ⟨"failing", [.rule first, .rule second], ⟨⟨[], 0, none⟩, []⟩⟩
    let deeds : List Deed := [.post (.transcript { text := "Hello", receivedAt := ⟨0⟩ }),
      .post .utteranceEnded, .turn, .defer, .read (some 0), .pause 7, .send .endOfStream,
      .read none, .send .resume]
    let r := (Run.start chain.recorded {} 2).perform deeds
    let speech : Frame := .error "first" "Invalid configuration for first: transcript" true
    let timer : Frame := .error "first" "Invalid configuration for first: timer" true
    let ending : Frame := .error "second" "Invalid configuration for second: utterance_ended" true
    chain.stages ≠ [] ∧ 0 < 2 ∧ (∀ d ∈ deeds, d.isOpen = true) ∧
      (∀ s ∈ r.stations, s.isStopped = false) ∧ r.output = [(0, speech), (0, speech), (7, ending),
        (7, timer), (7, timer), (7, .endOfStream), (7, .endOfStream), (7, .resume),
        (7, .resume)] := by
  intro first second chain deeds r speech timer ending
  have hchain : chain.stages ≠ [] := by simp [chain]
  have hcapacity : 0 < 2 := by decide
  have hopen : ∀ d ∈ deeds, d.isOpen = true := by decide
  have hrunning := (faults_contained chain hchain {} hcapacity deeds hopen).2.2.1
  exact ⟨hchain, hcapacity, hopen, hrunning, by decide +kernel⟩

end BargeIn.Pipeline
