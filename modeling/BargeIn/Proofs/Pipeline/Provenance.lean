import Mathlib.Data.List.Forall2
import BargeIn.Proofs.Pipeline.Utterances
import BargeIn.Proofs.Pipeline.Standard
import BargeIn.Proofs.Run.Accounts
import BargeIn.Proofs.Run.Throughout

/-!
# Where the frames of the standard chain come from

The handler adds verdicts on the user's speech and takes out the fillers that it learns; the filter
puts a note in the place of an acknowledgment. Nothing else happens to the input: without the
verdicts and with the acknowledgments back in their places, what comes out is what went in.
-/

set_option autoImplicit false

namespace BargeIn

def Frame.isVerdict : Frame → Bool
  | .interrupt .. | .resume | .awaitingConfirmation _ => true
  | _ => false

def Frame.isLesson : Frame → Bool
  | .control (.addIgnoredWords _) => true
  | _ => false

theorem Frame.eq_lesson {f : Frame} (h : f.isLesson = true) :
    ∃ words, f = .control (.addIgnoredWords words) := by
  cases f with
  | control control =>
    cases control with
    | addIgnoredWords words => exact ⟨words, rfl⟩
    | reset => cases h
  | _ => cases h

/-- What a frame can have become when it leaves the filter. -/
inductive Frame.Becomes : Frame → Frame → Prop
  | itself (f : Frame) : Becomes f f
  | withheld (text : String) : Becomes (.agentSpeech text) (.acknowledgmentSuppressed text)

namespace Pipeline

/-- What can come out of one frame. -/
inductive Yields : Frame → List Frame → Prop
  | lesson (words : List String) : Yields (.control (.addIgnoredWords words)) []
  | passed {f f' : Frame} {verdicts : List Frame} (hf : f.isLesson = false) (hb : f.Becomes f')
      (hfew : verdicts.length ≤ 1) (hverdicts : ∀ v ∈ verdicts, v.isVerdict = true)
      (hcause : verdicts ≠ [] → ∃ fragment, f = .transcript fragment) :
      Yields f (verdicts ++ [f'])

theorem passedOn_process (f : Frame) : (Call.process f).passedOn = [f].filter (!·.isLesson) := by
  cases f with
  | control control => cases control <;> rfl
  | _ => rfl

theorem Turn.verdicts {timeout : Nat} {cause : Call} {state next : Option SpeechState}
    {out : List Frame} (h : Turn timeout cause state out next) :
    out.length ≤ 1 ∧ ∀ f ∈ out, f.isVerdict = true := by
  cases h <;> simp [Frame.isVerdict]

theorem filter_becomes (w : Suppressor) (now : Instant) (f : Frame) :
    f.Becomes (Filter.process w now f).1 := by
  cases f with
  | agentSpeech text =>
    simp only [Filter.process]
    rcases w.filter text now with ⟨verdict, s⟩
    cases verdict with
    | suppress => exact .withheld text
    | speak => exact .itself _
  | _ => exact .itself _

namespace Listener

theorem generated_verdicts (l : Listener) (c : Call) :
    (c.generated (l.call c).1).length ≤ 1 ∧
      ∀ f ∈ c.generated (l.call c).1, f.isVerdict = true := by
  cases hb : c.isBoundary with
  | false => exact (l.call_turn c hb).verdicts
  | true =>
    rw [(l.call_boundary c hb).1]
    simp

theorem generated_cause (l : Listener) (f : Frame)
    (h : (Call.process f).generated (l.call (.process f)).1 ≠ []) :
    ∃ fragment, f = .transcript fragment := by
  cases f with
  | transcript fragment => exact ⟨fragment, rfl⟩
  | control control => cases control <;> exact absurd rfl h
  | _ => exact absurd rfl h

theorem take_yields (l : Listener) (now : Instant) (f : Frame) : Yields f (l.take now f).1 := by
  rcases speech_or_other f with ⟨text, rfl⟩ | hf
  · have hbecomes := filter_becomes l.suppressor now (.agentSpeech text)
    have hyields : Yields (.agentSpeech text) ([] ++ (l.take now (.agentSpeech text)).1) :=
      .passed rfl hbecomes (by simp) (by simp) (by simp)
    exact hyields
  · rw [l.take_unspoken now hf]
    cases hlesson : f.isLesson with
    | true =>
      obtain ⟨words, rfl⟩ := Frame.eq_lesson hlesson
      exact .lesson words
    | false =>
      obtain ⟨hfew, hverdicts⟩ := l.generated_verdicts (.process f)
      have hpassed : (Call.process f).passedOn = [f] := by
        rw [passedOn_process]
        simp [hlesson]
      rw [call_output, hpassed]
      exact .passed hlesson (.itself f) hfew hverdicts (l.generated_cause f)

theorem passages_yield (l : Listener) (inputs : List (Instant × Frame)) :
    ∀ p ∈ passages l.chain l.conversation inputs, ∃ out, p.result = .ok out ∧ Yields p.frame out := by
  induction inputs generalizing l with
  | nil => simp [passages]
  | cons input inputs ih =>
    obtain ⟨now, f⟩ := input
    rw [passages_cons]
    intro p hp
    rcases List.mem_cons.mp hp with rfl | hp
    · exact ⟨_, rfl, l.take_yields now f⟩
    · exact ih (l.take now f).2 p hp

end Listener

/-! ## Runs -/

inductive Source
  | input
  | handler
deriving Repr, DecidableEq

def Entry.traced {σ : Type} : Entry σ → List (Source × Frame)
  | .took _ f (.ok out) =>
    ((Call.process f).generated out).map (.handler, ·) ++ (Call.process f).passedOn.map (.input, ·)
  | .served _ (.ok out) => out.map (.handler, ·)
  | _ => []

def Recorder.traced {σ : Type} (s : Recorder σ) : List (Source × Frame) :=
  s.record.flatMap Entry.traced

structure Entry.Told (e : Entry Stage) : Prop where
  sent : e.traced.map (·.2) = e.sent
  verdicts : ∀ t ∈ e.traced, t.1 = .handler → t.2.isVerdict = true
  input : (e.traced.filter (·.1 = .input)).map (·.2) = e.frame.toList.filter (!·.isLesson)

theorem told_took (h : SharedHandler) (w : Shared) (c : Conversation) (now : Instant) (f : Frame) :
    (Entry.took (.handler h) f (Processor.process (Stage.handler h) w c now f).result).Told := by
  let l : Listener := ⟨h.within w, w.suppressor, c⟩
  have hresult : (Processor.process (Stage.handler h) w c now f).result =
      .ok (l.call (.process f)).1 := rfl
  rw [hresult]
  constructor
  · simp only [Entry.traced, Entry.sent, List.map_append, List.map_map, Function.comp_def,
      List.map_id']
    exact (l.call_output (.process f)).symm
  · intro t ht hhandler
    rcases List.mem_append.mp ht with ht | ht
    · obtain ⟨v, hv, rfl⟩ := List.mem_map.mp ht
      exact (l.generated_verdicts (.process f)).2 v hv
    · obtain ⟨g, _, rfl⟩ := List.mem_map.mp ht
      cases hhandler
  · simp only [Entry.traced, Entry.frame, Option.toList_some]
    simp [List.filter_append, List.filter_map, Function.comp_def, passedOn_process]

theorem told_served (h : SharedHandler) (w : Shared) (c : Conversation) (now : Instant) :
    (Entry.served (.handler h) (Processor.expire (Stage.handler h) w c now).result).Told := by
  let l : Listener := ⟨h.within w, w.suppressor, c⟩
  have hresult : (Processor.expire (Stage.handler h) w c now).result =
      .ok ((Call.expire now).generated (l.call (.expire now)).1) := by
    rw [Call.generated_expire]
    rfl
  rw [hresult]
  constructor
  · simp [Entry.traced, Entry.sent, Function.comp_def]
  · intro t ht _
    obtain ⟨v, hv, rfl⟩ := List.mem_map.mp ht
    exact (l.generated_verdicts (.expire now)).2 v hv
  · simp [Entry.traced, Entry.frame, List.filter_map, Function.comp_def]

theorem frames_cons (e : Entry Stage) (later : List (Entry Stage)) :
    (e :: later).filterMap Entry.frame = e.frame.toList ++ later.filterMap Entry.frame := by
  cases he : e.frame <;> simp [he]

theorem record_told {record : List (Entry Stage)} (h : ∀ e ∈ record, e.Told) :
    (record.flatMap Entry.traced).map (·.2) = record.flatMap Entry.sent ∧
      (∀ t ∈ record.flatMap Entry.traced, t.1 = .handler → t.2.isVerdict = true) ∧
      ((record.flatMap Entry.traced).filter (·.1 = .input)).map (·.2) =
        (record.filterMap Entry.frame).filter (!·.isLesson) := by
  induction record with
  | nil => simp
  | cons e later ih =>
    have he := h e List.mem_cons_self
    obtain ⟨hsent, hverdicts, hinput⟩ := ih fun d hd => h d (List.mem_cons_of_mem e hd)
    refine ⟨?_, ?_, ?_⟩
    · rw [List.flatMap_cons, List.flatMap_cons, List.map_append, he.sent, hsent]
    · intro t ht
      rw [List.flatMap_cons] at ht
      exact (List.mem_append.mp ht).elim (he.verdicts t) (hverdicts t)
    · rw [List.flatMap_cons, List.filter_append, List.map_append, he.input, hinput, frames_cons,
        List.filter_append]

theorem record_becomes {record : List (Entry Stage)}
    (h : ∀ e ∈ record, List.Forall₂ Frame.Becomes e.frame.toList e.sent) :
    List.Forall₂ Frame.Becomes (record.filterMap Entry.frame) (record.flatMap Entry.sent) := by
  induction record with
  | nil => exact .nil
  | cons e later ih =>
    have hlater := ih fun d hd => h d (List.mem_cons_of_mem e hd)
    rw [frames_cons, List.flatMap_cons]
    exact List.rel_append (h e List.mem_cons_self) hlater

def Stage.Placed : Nat → Stage → Prop
  | 0, stage => ∃ h, stage = .handler h
  | _, stage => stage = .filter

def Entry.Placed : Nat → Entry Stage → Prop
  | 0, e => e.Told
  | _, e => List.Forall₂ Frame.Becomes e.frame.toList e.sent

structure Recorder.Placed (i : Nat) (s : Recorder Stage) : Prop where
  stage : s.stage.Placed i
  record : ∀ e ∈ s.record, e.Placed i

theorem Recorder.Placed.call {i : Nat} {s : Recorder Stage} (h : s.Placed i) {stage : Stage}
    {e : Entry Stage} (hcall : stage.Placed i ∧ e.Placed i) :
    Recorder.Placed i ⟨stage, s.record ++ [e]⟩ := by
  refine ⟨hcall.1, ?_⟩
  intro d hd
  rcases List.mem_append.mp hd with hd | hd
  · exact h.record d hd
  · rw [List.mem_singleton.mp hd]
    exact hcall.2

theorem Entry.placed_silent {e : Entry Stage} (hframe : e.frame = none) (htraced : e.traced = [])
    (hsent : e.sent = []) (i : Nat) : e.Placed i := by
  cases i with
  | zero => exact ⟨by simp [htraced, hsent], by simp [htraced], by simp [htraced, hframe]⟩
  | succ i =>
    show List.Forall₂ Frame.Becomes e.frame.toList e.sent
    rw [hframe, hsent]
    exact .nil

theorem told_placed {i : Nat} {stage : Stage} (h : stage.Placed i) (w : Shared)
    (c : Conversation) (now : Instant) :
    (stage.start w c now).stage.Placed i ∧ (stage.stop w c).stage.Placed i := by
  cases i with
  | zero =>
    obtain ⟨handler, rfl⟩ := h
    exact ⟨⟨_, rfl⟩, ⟨_, rfl⟩⟩
  | succ i =>
    obtain rfl : stage = .filter := h
    exact ⟨rfl, rfl⟩

theorem placed_lasting : Run.Lasting Recorder.Placed where
  start i s w c now h := h.call ⟨(told_placed h.stage w c now).1, Entry.placed_silent rfl rfl rfl i⟩
  stop i s w c now h := h.call ⟨(told_placed h.stage w c now).2, Entry.placed_silent rfl rfl rfl i⟩
  process i s w c now f h := by
    apply h.call
    cases i with
    | zero =>
      obtain ⟨handler, hs⟩ := h.stage
      rw [hs]
      exact ⟨⟨_, rfl⟩, told_took handler w c now f⟩
    | succ i =>
      have hs : s.stage = .filter := h.stage
      rw [hs]
      exact ⟨rfl, .cons (filter_becomes w.suppressor now f) .nil⟩
  expire i s w c now h := by
    apply h.call
    cases i with
    | zero =>
      obtain ⟨handler, hs⟩ := h.stage
      rw [hs]
      exact ⟨⟨_, rfl⟩, told_served handler w c now⟩
    | succ i =>
      have hs : s.stage = .filter := h.stage
      rw [hs]
      exact ⟨rfl, Entry.placed_silent rfl rfl rfl (i + 1)⟩

theorem placed_run (policy : Policy) (conversation : Conversation) (capacity : Nat)
    {deeds : List Deed} (hopen : ∀ d ∈ deeds, d.isOpen = true) :
    ((Run.start (interruptionChain policy).recorded conversation capacity).perform
      deeds).Everywhere Recorder.Placed := by
  apply placed_lasting.persists.perform (t := []) (placed_lasting.begun _ conversation capacity)
    hopen
  intro i s hs
  match i with
  | 0 =>
    obtain rfl := Option.some.inj hs
    exact ⟨⟨_, rfl⟩, by simp⟩
  | 1 =>
    obtain rfl := Option.some.inj hs
    exact ⟨rfl, by simp⟩

/-- Of two stages each has received the first frames that there are for it, and the first frames
that the second has sent have come out. -/
theorem Accounts.prefixes {a b : Station (Recorder Stage)} {incoming outgoing : List Frame}
    (h : Accounts incoming [a, b] outgoing) :
    a.stage.received <+: incoming ∧ b.stage.received <+: a.stage.sent ∧
      outgoing <+: b.stage.sent := by
  obtain ⟨passed, hfirst, passed', hsecond, rfl⟩ := h
  refine ⟨⟨_, hfirst.received.symm⟩, ?_, ⟨_, hsecond.sent.symm⟩⟩
  have hpassed : passed <+: a.stage.sent := ⟨_, hfirst.sent.symm⟩
  have hreceived : b.stage.received <+: passed := ⟨_, hsecond.received.symm⟩
  exact hreceived.trans hpassed

/-- Frame by frame and in runs, the standard chain never fails, and it neither loses a frame nor
doubles it nor changes the order. At any moment the first frames of the input have been told, and
what became of the first frames that the handler has sent has come out; once no task can go on and
there is room for what comes out, all have. -/
theorem frames_accounted (policy : Policy) (conversation : Conversation) {capacity : Nat}
    (hcapacity : 0 < capacity) (inputs : List (Instant × Frame)) (deeds : List Deed)
    (hopen : ∀ d ∈ deeds, d.isOpen = true) :
    let log := passages (interruptionChain policy) conversation inputs
    let first := Run.start (interruptionChain policy) conversation capacity
    let run := first.perform deeds
    let r := (Run.start (interruptionChain policy).recorded conversation capacity).perform deeds
    let input := (first.taken deeds).filter (!·.isLesson)
    let output := run.output.map (·.2)
    (log.map (fun p => (p.now, p.frame)) = inputs ∧
      ∀ p ∈ log, ∃ out, p.result = .ok out ∧ Yields p.frame out) ∧
    r.plain = run ∧
    (∃ handler filter, r.stations.map (·.stage) = [handler, filter] ∧
      handler.traced.map (·.2) = handler.sent ∧
      (∀ t ∈ handler.traced, t.1 = .handler → t.2.isVerdict = true) ∧
      let told := (handler.traced.filter (·.1 = .input)).map (·.2)
      told <+: input ∧
      (∃ begun, begun <+: handler.sent ∧ List.Forall₂ Frame.Becomes begun output) ∧
      (run.ready = [] → run.reader.admits run.capacity ≠ .full →
        told = input ∧ List.Forall₂ Frame.Becomes handler.sent output ∧
          run.closeInput.settle.output = run.output)) ∧
    ((∀ d ∈ deeds, d.isPaced = true) →
      first.taken deeds = deeds.filterMap Deed.frame ∧ run.ready = [] ∧ run.reader = .prompt) := by
  intro log first run r input output
  have hinputs := passages_inputs (interruptionChain policy) conversation inputs
  have hyields := (Listener.fresh policy conversation).passages_yield inputs
  let recorded := Run.start (interruptionChain policy).recorded conversation capacity
  have hfirst : recorded.plain = first := Run.plain_start _ conversation capacity
  have hplain : r.plain = run := by rw [Run.plain_perform, hfirst]
  have htaken : recorded.taken deeds = first.taken deeds := by rw [← hfirst, Run.plain_taken]
  have horderly : r.Orderly 2 (first.taken deeds) :=
    htaken ▸ Run.Orderly.persists.perform
      (Run.Orderly.start (interruptionChain policy) conversation hcapacity) hopen
  have houtput : output = r.output.map (·.2) := congrArg (·.output.map (·.2)) hplain.symm
  have hplaced := placed_run policy conversation capacity hopen
  obtain ⟨a, b, hstations⟩ := List.length_eq_two.mp horderly.length
  have hhandler : a.stage.Placed 0 := hplaced 0 a (congrArg (·[0]?) hstations)
  have hfilter : b.stage.Placed 1 := hplaced 1 b (congrArg (·[1]?) hstations)
  obtain ⟨htraced, hverdicts, htold⟩ := record_told hhandler.record
  have hinput : (a.stage.traced.filter (·.1 = .input)).map (·.2) =
      a.stage.received.filter (!·.isLesson) := htold
  have hbecomes : List.Forall₂ Frame.Becomes b.stage.received b.stage.sent :=
    record_becomes hfilter.record
  obtain ⟨htook, hhanded, hout⟩ := (hstations ▸ horderly.accounts).prefixes
  refine ⟨⟨hinputs, hyields⟩, hplain, ⟨a.stage, b.stage, ?_, htraced, hverdicts, ?_, ?_, ?_⟩, ?_⟩
  · rw [hstations]
    rfl
  · rw [hinput]
    exact htook.filter _
  · obtain ⟨late, hlate⟩ := hout
    rw [← hlate, ← houtput] at hbecomes
    exact ⟨_, (List.take_prefix _ _).trans hhanded, List.forall₂_take_append _ _ _ hbecomes⟩
  · rw [← hplain]
    intro hready hroom
    obtain ⟨_, hrelays, _, hclosing⟩ := horderly.rests hready hroom
    rw [hstations] at hrelays
    obtain ⟨hreceived, hnext, hsent⟩ := hrelays
    refine ⟨?_, ?_, ?_⟩
    · rw [hinput, hreceived]
    · rw [houtput, ← hsent, ← hnext]
      exact hbecomes
    · rw [← Run.plain_closeInput, ← Run.plain_settle]
      exact hclosing
  · intro hpaced
    have hsteady : first.Steady := .start (interruptionChain policy) conversation hcapacity
    have hlast := hsteady.perform hpaced
    have hlength := Run.start_length (interruptionChain policy) conversation capacity
    have hstages : first.stations ≠ [] := List.ne_nil_of_length_eq_add_one hlength
    exact ⟨hsteady.taken hstages hpaced, hlast.idle, hlast.reader⟩

/-- A resumption comes with the input, and an interruption from the handler at its deadline. Two
frames wait together, and the reader is late. -/
theorem frames_accounted_timeout :
    let policy : Policy :=
      ⟨{ acknowledgments := ["alright"] }, .umAndStop, by decide +kernel⟩
    let filler : Frame := .transcript { text := "Um", receivedAt := ⟨0⟩ }
    let command : Frame := .transcript { text := "Stop!", receivedAt := ⟨2000000000⟩ }
    let deeds : List Deed := [.post (.control (.addIgnoredWords ["er"])),
      .post (.utteranceStarted ⟨0⟩), .turn, .defer, .send filler, .send .resume, .pause 2000,
      .read (some 0), .send .utteranceEnded, .send command, .send (.agentSpeech "Alright."),
      .read none, .send .endOfStream]
    let run := (Run.start (interruptionChain policy) {} 2).perform deeds
    0 < 2 ∧ (∀ d ∈ deeds, d.isOpen = true) ∧ run.closeInput.settle.output = run.output ∧
      run.output =
        [(0, .utteranceStarted ⟨0⟩), (0, .awaitingConfirmation ⟨2000000000⟩), (0, filler),
          (0, .resume), (2000, .interrupt .timeout none), (2000, .utteranceEnded), (2000, command),
          (2000, .acknowledgmentSuppressed "Alright."), (2000, .endOfStream)] := by
  intro policy filler command deeds run
  have hcapacity : 0 < 2 := by decide
  have hopen : ∀ d ∈ deeds, d.isOpen = true := by decide
  obtain ⟨_, _, ⟨_, _, _, _, _, _, _, hrest⟩, _⟩ :=
    frames_accounted policy {} hcapacity [] deeds hopen
  have hready : run.ready = [] := by decide +kernel
  have hroom : run.reader.admits run.capacity ≠ .full := by decide +kernel
  exact ⟨hcapacity, hopen, (hrest hready hroom).2.2, by decide +kernel⟩

end Pipeline

end BargeIn
