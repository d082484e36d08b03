import BargeIn.Proofs.Pipeline.Commuting
import BargeIn.Proofs.Run.Flow

/-!
# Unfinished work

What the stations have before them can be done station by station: each delivers what it owes,
takes all frames of its queue and those that come from the station before, and passes on what
comes of them. A task's move does a part of this work. The rest yields the same as before, if the
part can be swapped with the work of the stations before it.
-/

set_option autoImplicit false

namespace BargeIn.Pipeline

def Stage.digest (now : Instant) (stage : Stage) :
    List Frame → StateM Shared (Stage × List Frame)
  | [] => pure (stage, [])
  | f :: fs => do
    let done ← stage.call now f
    let stage ← done.1.close f.isEndOfStream
    let rest ← stage.digest now fs
    pure (rest.1, done.2 ++ rest.2)

def Station.finish (now : Instant) (s : Station Stage) (incoming : List Frame) :
    StateM Shared (Stage × List Frame) := do
  let stage ← s.stage.close s.task.atEnd
  let done ← stage.digest now (s.inbox ++ incoming)
  pure (done.1, s.task.owed ++ done.2)

/-- The stations finish one after the other. -/
def finishAll (now : Instant) :
    List (Station Stage) → List Frame → StateM Shared (List Stage × List Frame)
  | [], frames => pure ([], frames)
  | s :: later, frames => do
    let done ← s.finish now frames
    let rest ← finishAll now later done.2
    pure (done.1 :: rest.1, rest.2)

theorem finishAll_append (now : Instant) (front back : List (Station Stage))
    (frames : List Frame) :
    finishAll now (front ++ back) frames = (do
      let done ← finishAll now front frames
      let rest ← finishAll now back done.2
      pure (done.1 ++ rest.1, rest.2)) := by
  induction front generalizing frames with
  | nil => rfl
  | cons s later ih =>
    funext w
    simp only [List.cons_append, finishAll, ih, bind_apply]
    rfl

section

variable {now : Instant} {s : Station Stage} {w : Shared}

/-- A part of a station's work is done early. -/
theorem finishAll_advance {β : Type} {m : StateM Shared β} {s' : β → Station Stage}
    (hs : ∀ incoming, s.finish now incoming = m >>= fun x => (s' x).finish now incoming)
    {front : List (Station Stage)} {frames : List Frame}
    (hswap : Swaps w (finishAll now front frames) m)
    (later : List (Station Stage)) :
    finishAll now (front ++ s :: later) frames w =
      finishAll now (front ++ s' (m w).1 :: later) frames (m w).2 := by
  simp only [finishAll_append, finishAll, hs, bind_apply, hswap.first, hswap.second, hswap.world]

theorem finish_takes {f : Frame} {fs : List Frame} (ht : s.task = .waiting)
    (hf : s.inbox = f :: fs) (conversation : Conversation) (incoming : List Frame) :
    s.finish now incoming = s.stage.call now f >>= fun x =>
      Station.finish now ⟨x.1, conversation, fs, .delivering x.2 f.isEndOfStream⟩ incoming := by
  funext w
  simp only [Station.finish, ht, hf, Task.atEnd, Task.owed, List.cons_append, Stage.digest,
    bind_apply]
  rfl

theorem finish_returns {atEnd : Bool} (ht : s.task = .delivering [] atEnd)
    (incoming : List Frame) :
    s.finish now incoming = s.stage.close atEnd >>= fun x =>
      Station.finish now { s with stage := x, task := .waiting } incoming := by
  funext w
  simp only [Station.finish, ht, Task.atEnd, Task.owed, bind_apply]
  rfl

theorem finishAll_hands {f : Frame} {fs : List Frame} {atEnd : Bool}
    (ht : s.task = .delivering (f :: fs) atEnd) (front : List (Station Stage))
    (next : Station Stage) (later : List (Station Stage)) (frames : List Frame) :
    finishAll now (front ++ s :: next :: later) frames =
      finishAll now (front ++ { s with task := .delivering fs atEnd } ::
        { next with inbox := next.inbox ++ [f] } :: later) frames := by
  funext w
  simp only [finishAll_append, finishAll, Station.finish, ht, Task.atEnd, Task.owed, bind_apply,
    List.append_assoc, List.cons_append, List.nil_append]
  rfl

theorem finishAll_emits {f : Frame} {fs : List Frame} {atEnd : Bool}
    (ht : s.task = .delivering (f :: fs) atEnd) (front : List (Station Stage))
    (frames : List Frame) :
    finishAll now (front ++ [s]) frames = (do
      let done ← finishAll now (front ++ [{ s with task := .delivering fs atEnd }]) frames
      pure (done.1, f :: done.2)) := by
  funext w
  simp only [finishAll_append, finishAll, Station.finish, ht, Task.atEnd, Task.owed, bind_apply]
  rfl

end

/-! ## Laws of unfinished work -/

structure Station.Fits (f : Frame) (s : Station Stage) : Prop where
  begun : s.task ≠ .unstarted
  inbox : ∀ g ∈ s.inbox, f.Kin g
  owed : ∀ g ∈ s.task.owed, f.Kin g
  ending : s.task.atEnd = true → f = .endOfStream

/-- What stages of some kind do with the frame, and with what came of it, keeps the law. -/
structure Obeys (L : Law Shared) (kind : Bool → Prop) (f : Frame) (now : Instant) : Prop where
  call : ∀ (stage : Stage) g, kind stage.isFilter → f.Kin g → L.Keeps (stage.call now g)
  close : f = .endOfStream → ∀ stage : Stage, kind stage.isFilter → L.Keeps (stage.close true)

theorem digest_kin {f : Frame} (now : Instant) {frames : List Frame} (h : ∀ g ∈ frames, f.Kin g)
    (stage : Stage) (w : Shared) : ∀ g ∈ (stage.digest now frames w).1.2, f.Kin g := by
  induction frames generalizing stage w with
  | nil => exact fun g hg => absurd hg List.not_mem_nil
  | cons o rest ih =>
    intro g hg
    rcases List.mem_append.mp hg with hg | hg
    · exact (h o List.mem_cons_self).trans (stage.call_kin now o w g hg)
    · exact ih (fun g hg => h g (List.mem_cons_of_mem o hg)) _ _ g hg

theorem finish_kin {f : Frame} (now : Instant) {s : Station Stage} (hs : s.Fits f)
    {incoming : List Frame} (h : ∀ g ∈ incoming, f.Kin g) (w : Shared) :
    ∀ g ∈ (s.finish now incoming w).1.2, f.Kin g := by
  intro g hg
  rcases List.mem_append.mp hg with hg | hg
  · exact hs.owed g hg
  · exact digest_kin now (fun g hg => (List.mem_append.mp hg).elim (hs.inbox g) (h g)) _ _ g hg

namespace Obeys

variable {L : Law Shared} {kind : Bool → Prop} {f : Frame} {now : Instant}

theorem close_keeps (h : Obeys L kind f now) {stage : Stage} (hkind : kind stage.isFilter)
    {atEnd : Bool} (hend : atEnd = true → f = .endOfStream) : L.Keeps (stage.close atEnd) := by
  cases atEnd with
  | true => exact h.close (hend rfl) stage hkind
  | false => exact L.pure stage

theorem digest_keeps (h : Obeys L kind f now) {frames : List Frame} (hf : ∀ g ∈ frames, f.Kin g)
    {stage : Stage} (hkind : kind stage.isFilter) : L.Keeps (stage.digest now frames) := by
  induction frames generalizing stage with
  | nil => exact L.pure _
  | cons g rest ih =>
    have hg := hf g List.mem_cons_self
    apply L.bind _ _ (h.call stage g hkind hg)
    intro w
    have hcalled : kind (stage.call now g w).1.1.isFilter :=
      (stage.call_isFilter now g w).symm ▸ hkind
    apply L.bind _ _ (h.close_keeps hcalled hg.atEnd)
    intro w'
    apply L.bind _ _ (ih (fun g hg => hf g (List.mem_cons_of_mem _ hg)) _)
    · exact fun _ => L.pure _
    · exact (Stage.close_isFilter _ _ w').symm ▸ hcalled

theorem finish_keeps (h : Obeys L kind f now) {s : Station Stage} (hs : s.Fits f)
    (hkind : kind s.stage.isFilter) {incoming : List Frame} (hf : ∀ g ∈ incoming, f.Kin g) :
    L.Keeps (s.finish now incoming) := by
  apply L.bind _ _ (h.close_keeps hkind hs.ending)
  intro w
  apply L.bind _ _ (h.digest_keeps _ _)
  · exact fun _ => L.pure _
  · exact fun g hg => (List.mem_append.mp hg).elim (hs.inbox g) (hf g)
  · exact (s.stage.close_isFilter s.task.atEnd w).symm ▸ hkind

theorem finishAll_keeps (h : Obeys L kind f now) {stations : List (Station Stage)}
    (hs : ∀ s ∈ stations, s.Fits f ∧ kind s.stage.isFilter) {frames : List Frame}
    (hf : ∀ g ∈ frames, f.Kin g) : L.Keeps (finishAll now stations frames) := by
  induction stations generalizing frames with
  | nil => exact L.pure _
  | cons s later ih =>
    obtain ⟨hfits, hkind⟩ := hs s List.mem_cons_self
    apply L.bind _ _ (h.finish_keeps hfits hkind hf)
    intro w
    apply L.bind _ _ (ih (fun t ht => hs t (List.mem_cons_of_mem s ht)) (finish_kin now hfits hf w))
    exact fun _ => L.pure _

/-- Without speech, the order of what the handlers change does not matter. -/
theorem unspoken {f : Frame} (h : ∀ text, f ≠ .agentSpeech text) (now : Instant)
    (known : List Vocabulary) :
    Obeys (.tinged (.ofFrame f known)) (fun _ => True) f now where
  call stage g _ hg := by
    rcases hg with rfl | hg
    · exact stage.call_tinged now h known
    · exact (stage.call_aloof now (.inl hg)).tinged _
  close he stage _ := by
    subst he
    exact stage.close_tinged known

theorem settled {text : String} {now : Instant} {w : Shared} (h : Settled text now w) :
    Obeys (.still w) (fun _ => True) (.agentSpeech text) now where
  call stage _ _ hg := stage.call_settled text now hg h
  close he := nomatch he

theorem unfiltered (text : String) (now : Instant) :
    Obeys .aloof (· = false) (.agentSpeech text) now where
  call _ _ hkind hg := Stage.call_plain now hg (by simp [hkind])
  close he := nomatch he

end Obeys

/-! ## Finishing one after the other is a passage -/

section

variable {σ ω : Type} [Processor σ ω] {world : ω} {c : Conversation} {now : Instant}
  {out : List Frame}

theorem feed_ok {stage : σ} {f : Frame} {fs : List Frame}
    (h : (feed stage world c now (f :: fs)).result = .ok out) :
    let effect := Processor.process stage world c now f
    let rest := feed effect.stage effect.world effect.conversation now fs
    ∃ early late, effect.result = .ok early ∧ rest.result = .ok late ∧ out = early ++ late ∧
      (feed stage world c now (f :: fs)).stage = rest.stage ∧
      (feed stage world c now (f :: fs)).world = rest.world := by
  intro effect rest
  cases he : effect.result with
  | error fault => simp [feed, effect, he] at h
  | ok early =>
    have hfeed : feed stage world c now (f :: fs) =
        { rest with result := rest.result.map (early ++ ·) } := by simp [feed, effect, rest, he]
    rw [hfeed] at h ⊢
    cases hr : rest.result with
    | error fault => simp [hr, Except.map] at h
    | ok late =>
      simp only [hr, Except.map, Except.ok.injEq] at h
      exact ⟨early, late, rfl, rfl, h.symm, rfl, rfl⟩

theorem pass_ok {stage : σ} {later : List σ} {frames : List Frame}
    (h : (pass (stage :: later) world c now frames).result = .ok out) :
    let effect := feed stage world c now frames
    ∃ between, effect.result = .ok between ∧
      let rest := pass later effect.world effect.conversation now between
      rest.result = .ok out ∧
        (pass (stage :: later) world c now frames).stages = effect.stage :: rest.stages ∧
        (pass (stage :: later) world c now frames).world = rest.world := by
  intro effect
  cases he : effect.result with
  | error fault => simp [pass, effect, he] at h
  | ok between =>
    have hpass : pass (stage :: later) world c now frames =
        let rest := pass later effect.world effect.conversation now between
        { rest with stages := effect.stage :: rest.stages } := by simp [pass, effect, he]
    rw [hpass] at h ⊢
    exact ⟨between, rfl, h, rfl, rfl⟩

end

theorem call_close (stage : Stage) (now : Instant) (f : Frame) (w : Shared) :
    (stage.call now f w).1.1.close f.isEndOfStream (stage.call now f w).2 =
      ((stage.call now f w).1.1, (stage.call now f w).2) := by
  cases f with
  | endOfStream => cases stage <;> rfl
  | _ => rfl

theorem digest_feed {stage : Stage} {w : Shared} {c : Conversation} {now : Instant}
    {frames out : List Frame} (h : (feed stage w c now frames).result = .ok out) :
    stage.digest now frames w =
      (((feed stage w c now frames).stage, out), (feed stage w c now frames).world) := by
  induction frames generalizing stage w c out with
  | nil =>
    cases h
    rfl
  | cons f fs ih =>
    obtain ⟨early, late, hearly, hlate, rfl, hstage, hworld⟩ := feed_ok h
    have hcall : stage.call now f w =
        (((Processor.process stage w c now f).stage, early),
          (Processor.process stage w c now f).world) := by
      obtain ⟨c', hc⟩ := stage.process_heedless w c now f
      have hprocess : Processor.process stage w c now f = stage.process w c now f := rfl
      rw [hprocess, hc] at hearly ⊢
      simp only [Stage.call]
      simp only at hearly
      rw [hearly]
      rfl
    have hclosed := call_close stage now f w
    rw [hcall] at hclosed
    simp only [Stage.digest, bind_apply, hcall]
    rw [hclosed]
    simp only [ih hlate, hstage, hworld, pure_apply]

theorem finish_rest {s : Station Stage} (h : Run.AtRest s) (now : Instant) (frames : List Frame) :
    s.finish now frames = s.stage.digest now frames := by
  obtain ⟨stage, conversation, inbox, task⟩ := s
  obtain ⟨rfl, rfl⟩ : task = .waiting ∧ inbox = [] := h
  rfl

theorem finishAll_pass {stations : List (Station Stage)} (hrest : ∀ s ∈ stations, Run.AtRest s)
    {w : Shared} {c : Conversation} {now : Instant} {frames out : List Frame}
    (h : (pass (stations.map (·.stage)) w c now frames).result = .ok out) :
    finishAll now stations frames w =
      (((pass (stations.map (·.stage)) w c now frames).stages, out),
        (pass (stations.map (·.stage)) w c now frames).world) := by
  induction stations generalizing w c frames with
  | nil =>
    cases h
    rfl
  | cons s later ih =>
    obtain ⟨between, hbetween, hlater, hstages, hworld⟩ := pass_ok h
    simp only [List.map_cons] at hstages hworld ⊢
    simp only [finishAll, bind_apply, finish_rest (hrest s List.mem_cons_self), digest_feed hbetween,
      ih (fun t ht => hrest t (List.mem_cons_of_mem s ht)) hlater, hstages, hworld, pure_apply]

theorem finishAll_rest {stations : List (Station Stage)} (hrest : ∀ s ∈ stations, Run.AtRest s)
    (now : Instant) (w : Shared) :
    finishAll now stations [] w = ((stations.map (·.stage), []), w) := by
  induction stations generalizing w with
  | nil => rfl
  | cons s later ih =>
    simp only [finishAll, bind_apply, finish_rest (hrest s List.mem_cons_self), Stage.digest,
      pure_apply, ih fun t ht => hrest t (List.mem_cons_of_mem s ht), List.map_cons]

end BargeIn.Pipeline
