import Mathlib.Logic.Function.Iterate
import BargeIn.Pipeline.Run
import BargeIn.Proofs.Pipeline.Calls
import BargeIn.Proofs.Policy.Suppressor

/-!
# Calls in another order

The tasks of a chain take turns, so what one frame of the input leads to may be done in another
order than stage by stage. Stages affect each other only through what they share. A frame that is
no speech of the agent makes every stage that it or what came of it reaches change this in ways
whose order does not matter: words to be learned are added to vocabularies, of which a lesson takes
no notice, and any other frame changes the suppressor in one and the same way or not at all, of
which no stage takes notice then. Speech of the agent makes only the filters look at the suppressor,
and after the first filter has, speech changes nothing more. So most actions can be swapped.
-/

set_option autoImplicit false

namespace BargeIn.Pipeline

section

variable {ω α β : Type}

theorem bind_apply (m : StateM ω α) (k : α → StateM ω β) (w : ω) :
    (m >>= k) w = k (m w).1 (m w).2 := rfl

theorem pure_apply (a : α) (w : ω) : (pure a : StateM ω α) w = (a, w) := rfl

/-- From this world, the order of two actions does not matter. -/
structure Swaps (w : ω) (m : StateM ω α) (n : StateM ω β) : Prop where
  first : (m (n w).2).1 = (m w).1
  second : (n (m w).2).1 = (n w).1
  world : (m (n w).2).2 = (n (m w).2).2

theorem Swaps.symm {w : ω} {m : StateM ω α} {n : StateM ω β} (h : Swaps w m n) : Swaps w n m :=
  ⟨h.second, h.first, h.world.symm⟩

/-- The action has nothing to do with the world. -/
def Aloof (m : StateM ω α) : Prop := ∃ a, ∀ w, m w = (a, w)

def Still (w : ω) (m : StateM ω α) : Prop := (m w).2 = w

/-- Changes of a world of some kind whose order does not matter. -/
structure Changes (ω : Type) where
  Within : ω → Prop
  Allowed : (ω → ω) → Prop
  inhabited : ∃ w, Within w
  nothing : Allowed id
  both : ∀ {x y : ω → ω}, Allowed x → Allowed y → Allowed (y ∘ x)
  kept : ∀ {x : ω → ω} {w : ω}, Allowed x → Within w → Within (x w)
  swap : ∀ {x y : ω → ω} {w : ω}, Allowed x → Allowed y → Within w → x (y w) = y (x w)

/-- What the action yields is the same in all these worlds, and it makes one of these changes. -/
def Tinged (C : Changes ω) (m : StateM ω α) : Prop :=
  ∃ a x, C.Allowed x ∧ ∀ w, C.Within w → m w = (a, x w)

theorem Tinged.swaps {C : Changes ω} {m : StateM ω α} {n : StateM ω β} (hm : Tinged C m)
    (hn : Tinged C n) {w : ω} (hw : C.Within w) : Swaps w m n := by
  obtain ⟨a, x, hx, hm⟩ := hm
  obtain ⟨b, y, hy, hn⟩ := hn
  have hxw := C.kept hx hw
  have hyw := C.kept hy hw
  constructor <;> simp only [hm w hw, hn w hw, hm _ hyw, hn _ hxw]
  exact C.swap hx hy hw

theorem Aloof.swaps {m : StateM ω α} (hm : Aloof m) (n : StateM ω β) (w : ω) : Swaps w m n := by
  obtain ⟨a, hm⟩ := hm
  constructor <;> simp only [hm]

theorem Aloof.tinged {m : StateM ω α} (hm : Aloof m) (C : Changes ω) : Tinged C m := by
  obtain ⟨a, hm⟩ := hm
  exact ⟨a, id, C.nothing, fun w _ => hm w⟩

theorem Aloof.still {m : StateM ω α} (hm : Aloof m) (w : ω) : Still w m := by
  obtain ⟨a, hm⟩ := hm
  simp only [Still, hm]

theorem Still.swaps {w : ω} {m : StateM ω α} {n : StateM ω β} (hm : Still w m) (hn : Still w n) :
    Swaps w m n := by
  unfold Still at hm hn
  constructor <;> simp only [hm, hn]

/-- A law that all actions keep which are made of actions that keep it. -/
structure Law (ω : Type) where
  Keeps : {α : Type} → StateM ω α → Prop
  pure : ∀ {α : Type} (a : α), Keeps (Pure.pure a)
  bind : ∀ {α β : Type} (m : StateM ω α) (k : α → StateM ω β), Keeps m →
    (∀ w, Keeps (k (m w).1)) → Keeps (m >>= k)

def Law.tinged (C : Changes ω) : Law ω where
  Keeps := Tinged C
  pure a := ⟨a, id, C.nothing, fun _ _ => rfl⟩
  bind m k hm hk := by
    obtain ⟨a, x, hx, hm⟩ := hm
    obtain ⟨w, hw⟩ := C.inhabited
    have hnext := hk w
    rw [hm w hw] at hnext
    obtain ⟨b, y, hy, hk⟩ := hnext
    refine ⟨b, y ∘ x, C.both hx hy, fun w hw => ?_⟩
    rw [bind_apply, hm w hw]
    exact hk _ (C.kept hx hw)

def Law.aloof [Nonempty ω] : Law ω where
  Keeps := Aloof
  pure a := ⟨a, fun _ => rfl⟩
  bind m k hm hk := by
    obtain ⟨a, hm⟩ := hm
    obtain ⟨w⟩ := ‹Nonempty ω›
    have hnext := hk w
    rw [hm w] at hnext
    obtain ⟨b, hk⟩ := hnext
    exact ⟨b, fun w => by rw [bind_apply, hm w, hk w]⟩

def Law.still (w : ω) : Law ω where
  Keeps := Still w
  pure _ := rfl
  bind m k hm hk := by
    have hdone := hk w
    unfold Still at hm hdone ⊢
    rw [bind_apply, hm, hdone]

def Changes.once (Within : ω → Prop) (hsome : ∃ w, Within w) (change : ω → ω)
    (htwice : ∀ w, change (change w) = change w) (hkept : ∀ w, Within w → Within (change w)) :
    Changes ω where
  Within := Within
  Allowed x := x = id ∨ x = change
  inhabited := hsome
  nothing := .inl rfl
  both := by
    rintro x y (rfl | rfl) (rfl | rfl)
    · exact .inl rfl
    · exact .inr rfl
    · exact .inr rfl
    · exact .inr (funext htwice)
  kept := by
    rintro x w (rfl | rfl) hw
    · exact hw
    · exact hkept w hw
  swap := by rintro x y w (rfl | rfl) (rfl | rfl) _ <;> rfl

end

end BargeIn.Pipeline

namespace BargeIn

namespace Frame

def isInert (f : Frame) : Bool := f.isDecision || f.isError

def Kin (f g : Frame) : Prop := g = f ∨ g.isInert = true

theorem Kin.trans {f g o : Frame} (h : f.Kin g) (ho : g.Kin o) : f.Kin o :=
  ho.elim (fun he => he ▸ h) .inr

theorem Kin.atEnd {f g : Frame} (h : f.Kin g) (hg : g.isEndOfStream = true) : f = .endOfStream := by
  cases g with
  | endOfStream => exact (h.resolve_right Bool.false_ne_true).symm
  | _ => cases hg

def touch (f : Frame) (s : Suppressor) : Suppressor :=
  match f with
  | .transcript fragment => s.arm fragment.receivedAt
  | .control .reset | .endOfStream => s.disarm
  | _ => s

theorem touch_touch (f : Frame) (s : Suppressor) : f.touch (f.touch s) = f.touch s := by
  cases f with
  | control control => cases control <;> rfl
  | _ => rfl

def lesson : Frame → Option (List String)
  | .control (.addIgnoredWords words) => some words
  | _ => none

theorem eq_of_lesson {f : Frame} {words : List String} (h : f.lesson = some words) :
    f = .control (.addIgnoredWords words) := by
  cases f with
  | control control =>
    cases control with
    | addIgnoredWords =>
      exact congrArg (fun w => Frame.control (.addIgnoredWords w)) (Option.some.inj h)
    | reset => cases h
  | _ => cases h

end Frame

theorem Decision.frame_inert {decision : Decision} {text : Option String} {g : Frame}
    (h : g ∈ (decision.frame text).toList) : g.isInert = true := by
  obtain h := Option.mem_toList.mp h
  cases decision with
  | ignore => cases h
  | interrupt reason => cases reason <;> cases h <;> rfl
  | resume | wait => cases h; rfl

namespace Pipeline

instance : Nonempty Shared := ⟨⟨⟨[], 0, none⟩, []⟩⟩

/-! ## What a frame changes -/

namespace Shared

def touched (f : Frame) (w : Shared) : Shared :=
  { w with suppressor := f.touch w.suppressor }

def taught (words : List String) (times : Nat → Nat) (w : Shared) : Shared :=
  { w with vocabularies :=
      w.vocabularies.mapIdx fun i v => (fun v => (v.addFillers words).1)^[times i] v }

theorem taught_taught (words : List String) (times more : Nat → Nat) (w : Shared) :
    (w.taught words times).taught words more = w.taught words fun i => more i + times i := by
  simp only [taught, List.mapIdx_mapIdx, Function.comp_def, Function.iterate_add_apply]

theorem untaught (words : List String) (w : Shared) : w = w.taught words fun _ => 0 := by
  obtain ⟨suppressor, vocabularies⟩ := w
  refine congrArg (Shared.mk suppressor) (List.ext_getElem? fun i => ?_)
  simp

theorem taught_once (words : List String) (w : Shared) (place : Nat) :
    w.taught words (if · = place then 1 else 0) = { w with
      vocabularies := w.vocabularies.set place ((w.vocabulary place).addFillers words).1 } := by
  unfold taught
  congr 1
  apply List.ext_getElem?
  intro i
  rw [List.getElem?_mapIdx, List.getElem?_set]
  by_cases hi : place = i
  · subst hi
    by_cases hlt : place < w.vocabularies.length
    · simp [hlt, vocabulary]
    · simp [hlt]
  · simp [hi, Ne.symm hi]

end Shared

def Changes.lessons (words : List String) : Changes Shared where
  Within _ := True
  Allowed x := ∃ times, x = Shared.taught words times
  inhabited := ⟨⟨⟨[], 0, none⟩, []⟩, trivial⟩
  nothing := ⟨fun _ => 0, funext (Shared.untaught words)⟩
  both := by
    rintro _ _ ⟨times, rfl⟩ ⟨more, rfl⟩
    exact ⟨_, funext (Shared.taught_taught words times more)⟩
  kept _ h := h
  swap := by
    rintro _ _ w ⟨times, rfl⟩ ⟨more, rfl⟩ _
    rw [Shared.taught_taught, Shared.taught_taught]
    exact congrArg (w.taught words) (funext fun i => Nat.add_comm _ _)

def Changes.ofFrame (f : Frame) (known : List Vocabulary) : Changes Shared :=
  match f.lesson with
  | some words => .lessons words
  | none => .once (·.vocabularies = known) ⟨⟨⟨[], 0, none⟩, known⟩, rfl⟩ (Shared.touched f)
      (fun w => congrArg ({ w with suppressor := · }) (f.touch_touch w.suppressor)) fun _ hw => hw

theorem Changes.ofFrame_within (f : Frame) (w : Shared) :
    (ofFrame f w.vocabularies).Within w := by
  unfold ofFrame
  split
  · trivial
  · rfl

theorem Changes.ofFrame_tinged {f : Frame} (h : f.lesson = none) {known : List Vocabulary} {α : Type}
    {m : StateM Shared α} (a : α) (touches : Bool)
    (hm : ∀ w, w.vocabularies = known →
      m w = (a, { w with
        suppressor := if touches = true then f.touch w.suppressor else w.suppressor })) :
    Tinged (ofFrame f known) m := by
  unfold ofFrame
  rw [h]
  cases touches with
  | true => exact ⟨a, Shared.touched f, .inr rfl, hm⟩
  | false => exact ⟨a, id, .inl rfl, hm⟩

/-! ## Calls of handlers -/

theorem Handler.process_tinged (h : Handler) {f : Frame} (hf : f.lesson = none) :
    ∃ out next touches, (∀ g ∈ out, f.Kin g) ∧ next.policy = h.policy ∧ ∀ s c, ∃ c',
      h.process s c f = (out, next, if touches = true then f.touch s else s, c') := by
  have hself : ∀ g ∈ [f], f.Kin g := fun g hg => .inl (List.mem_singleton.mp hg)
  cases f with
  | transcript f =>
    cases hs : h.session with
    | none =>
      refine ⟨[.transcript f], h, (h.classify f).isStop, hself, rfl, fun s c =>
        ⟨{ c with language := f.language.or c.language }, ?_⟩⟩
      simp only [process, hear_silent h s f hs]
      rfl
    | some session =>
      let step := h.policy.config.transition f (h.classify f) session
      refine ⟨(step.1.frame (some f.text)).toList ++ [.transcript f],
        { h with session := some step.2 }, (h.classify f).isStop && step.1.isInterrupt, ?_, rfl,
        fun s c => ⟨{ c with language := f.language.or c.language }, ?_⟩⟩
      · exact fun g hg => (List.mem_append.mp hg).elim
          (fun hg => .inr (Decision.frame_inert hg)) (hself g)
      · simp only [process, hear_open h s f session hs]
        rfl
  | endOfStream =>
    exact ⟨_, { h with session := none }, true, hself, rfl, fun s c => ⟨c, rfl⟩⟩
  | control control =>
    cases control with
    | reset => exact ⟨_, { h with session := none }, true, hself, rfl, fun s c => ⟨c, rfl⟩⟩
    | addIgnoredWords => cases hf
  | utteranceStarted start =>
    exact ⟨_, { h with session := some (.start start) }, false, hself, rfl,
      fun s c => ⟨{ c with turn := c.turn + 1 }, rfl⟩⟩
  | utteranceEnded =>
    exact ⟨_, { h with session := none }, false, hself, rfl, fun s c => ⟨c, rfl⟩⟩
  | _ => exact ⟨_, h, false, hself, rfl, fun s c => ⟨c, rfl⟩⟩

theorem Handler.process_heedless (h : Handler) (s : Suppressor) (c : Conversation) (f : Frame) :
    ∃ c', h.process s c f =
      ((h.process s {} f).1, (h.process s {} f).2.1, (h.process s {} f).2.2.1, c') := by
  cases f with
  | control control => cases control <;> exact ⟨_, rfl⟩
  | _ => exact ⟨_, rfl⟩

namespace SharedHandler

variable (h : SharedHandler) (w : Shared)

theorem stored_same {next : Handler} (hpolicy : next.policy = (h.within w).policy) :
    h.stored w next = w := by
  obtain ⟨suppressor, vocabularies⟩ := w
  rw [stored, hpolicy]
  refine congrArg (Shared.mk suppressor) ?_
  by_cases hlt : h.place < vocabularies.length
  · simp [within, Shared.vocabulary, hlt]
  · exact List.set_eq_of_length_le (Nat.not_lt.mp hlt)

theorem process_lesson (c : Conversation) (words : List String) :
    h.process w c (.control (.addIgnoredWords words)) =
      ([], h, w.taught words (if · = h.place then 1 else 0), c) := by
  rw [Shared.taught_once]
  rfl

theorem process_passed (c : Conversation) {f : Frame}
    (hf : f.isInert = true ∨ ∃ text, f = .agentSpeech text) : h.process w c f = ([f], h, w, c) := by
  have hsame := h.stored_same w rfl
  have hprocess : (h.within w).process w.suppressor c f = ([f], h.within w, w.suppressor, c) := by
    rcases hf with hf | ⟨text, rfl⟩
    · cases f with
      | transcript | control | endOfStream | utteranceStarted | utteranceEnded => cases hf
      | _ => rfl
    · rfl
  rw [process, hprocess]
  show ([f], h, { h.stored w (h.within w) with suppressor := w.suppressor }, c) = _
  rw [hsame]

end SharedHandler

theorem Rule.process_kin (r : Rule) (f : Frame) :
    ∀ g ∈ Run.emitted (Stage.rule r) (r.process f), f.Kin g := by
  intro g hg
  unfold Rule.process at hg
  split at hg <;> simp [Run.emitted] at hg
  · exact .inl hg
  · exact .inl hg
  · exact .inr (hg ▸ rfl)

namespace Stage

def isFilter : Stage → Bool
  | .filter => true
  | _ => false

def call (stage : Stage) (now : Instant) (f : Frame) : StateM Shared (Stage × List Frame) :=
  fun w =>
    let effect := stage.process w {} now f
    ((effect.stage, Run.emitted stage effect.result), effect.world)

def close (stage : Stage) (atEnd : Bool) : StateM Shared Stage :=
  fun w =>
    if atEnd = true then
      let effect := stage.stop w {}
      (effect.stage, effect.world)
    else (stage, w)

theorem process_heedless (stage : Stage) (w : Shared) (c : Conversation) (now : Instant)
    (f : Frame) :
    ∃ c', stage.process w c now f = { stage.process w {} now f with conversation := c' } := by
  cases stage with
  | handler h =>
    obtain ⟨c', hc⟩ := (h.within w).process_heedless w.suppressor c f
    exact ⟨c', by simp only [process, SharedHandler.process, hc]⟩
  | _ => exact ⟨c, rfl⟩

theorem call_isFilter (stage : Stage) (now : Instant) (f : Frame) (w : Shared) :
    (stage.call now f w).1.1.isFilter = stage.isFilter := by
  cases stage <;> rfl

theorem close_isFilter (stage : Stage) (atEnd : Bool) (w : Shared) :
    (stage.close atEnd w).1.isFilter = stage.isFilter := by
  cases atEnd <;> cases stage <;> rfl

theorem call_handler (h : SharedHandler) (now : Instant) (f : Frame) (w : Shared) :
    (Stage.handler h).call now f w =
      ((.handler (h.process w {} f).2.1, (h.process w {} f).1), (h.process w {} f).2.2.1) := rfl

theorem call_kin (stage : Stage) (now : Instant) (f : Frame) (w : Shared) :
    ∀ g ∈ (stage.call now f w).1.2, f.Kin g := by
  intro g hg
  cases stage with
  | handler h =>
    rw [call_handler] at hg
    cases hf : f.lesson with
    | none =>
      obtain ⟨out, next, touches, hkin, _, hprocess⟩ := (h.within w).process_tinged hf
      obtain ⟨c', hc⟩ := hprocess w.suppressor {}
      simp only [SharedHandler.process, hc] at hg
      exact hkin g hg
    | some words =>
      obtain rfl := Frame.eq_of_lesson hf
      rw [SharedHandler.process_lesson] at hg
      cases hg
  | filter =>
    obtain rfl : g = (Filter.process w.suppressor now f).1 := List.mem_singleton.mp hg
    cases f with
    | agentSpeech text =>
      simp only [Filter.process]
      rcases w.suppressor.filter text now with ⟨verdict, s⟩
      cases verdict
      · exact .inl rfl
      · exact .inr rfl
    | _ => exact .inl rfl
  | relay name => exact .inl (List.mem_singleton.mp hg)
  | rule r => exact r.process_kin f g hg

theorem call_aloof (stage : Stage) (now : Instant) {f : Frame}
    (h : f.isInert = true ∨ stage.isFilter = false ∧ ∃ text, f = .agentSpeech text) :
    Aloof (stage.call now f) := by
  cases stage with
  | handler handler =>
    refine ⟨(.handler handler, [f]), fun w => ?_⟩
    rw [call_handler, handler.process_passed w {} (h.imp_right (·.2))]
  | filter =>
    refine ⟨(.filter, [f]), fun w => ?_⟩
    rcases h with hf | ⟨hf, _⟩
    · cases f with
      | agentSpeech => cases hf
      | _ => rfl
    · cases hf
  | relay name => exact ⟨(.relay name, [f]), fun w => rfl⟩
  | rule r => exact ⟨(.rule r, Run.emitted (Stage.rule r) (r.process f)), fun w => rfl⟩

theorem call_tinged (stage : Stage) (now : Instant) {f : Frame}
    (h : ∀ text, f ≠ .agentSpeech text) (known : List Vocabulary) :
    Tinged (Changes.ofFrame f known) (stage.call now f) := by
  cases stage with
  | handler handler =>
    cases hf : f.lesson with
    | some words =>
      obtain rfl := Frame.eq_of_lesson hf
      refine ⟨(.handler handler, []), _, ⟨(if · = handler.place then 1 else 0), rfl⟩, fun w _ => ?_⟩
      rw [call_handler, handler.process_lesson]
    | none =>
      let w : Shared := ⟨⟨[], 0, none⟩, known⟩
      obtain ⟨out, next, touches, _, hpolicy, hprocess⟩ := (handler.within w).process_tinged hf
      refine Changes.ofFrame_tinged hf (.handler { handler with session := next.session }, out) touches
        fun v hv => ?_
      have hwithin : handler.within v = handler.within w := by
        simp only [SharedHandler.within, Shared.vocabulary, hv, w]
      obtain ⟨c', hc⟩ := hprocess v.suppressor {}
      have hsame := handler.stored_same v (hpolicy.trans (congrArg (·.policy) hwithin.symm))
      rw [call_handler]
      simp only [SharedHandler.process, hwithin, hc, hsame]
  | filter =>
    have haloof : Aloof (Stage.filter.call now f) := by
      refine ⟨(.filter, [f]), fun w => ?_⟩
      cases f with
      | agentSpeech text => exact absurd rfl (h text)
      | _ => rfl
    exact haloof.tinged _
  | relay name => exact Aloof.tinged ⟨(Stage.relay name, [f]), fun w => rfl⟩ _
  | rule r =>
    exact Aloof.tinged ⟨(Stage.rule r, Run.emitted (Stage.rule r) (r.process f)), fun w => rfl⟩ _

theorem close_tinged (stage : Stage) (known : List Vocabulary) :
    Tinged (Changes.ofFrame .endOfStream known) (stage.close true) := by
  cases stage with
  | handler h =>
    exact Changes.ofFrame_tinged rfl (.handler { h with session := none }) true fun w _ => rfl
  | _ => exact Aloof.tinged ⟨_, fun w => rfl⟩ _

theorem call_filter {stage : Stage} (h : stage.isFilter = true) (text : String) (now : Instant)
    (w : Shared) : (stage.call now (.agentSpeech text) w).2 =
      { w with suppressor := (w.suppressor.filter text now).2 } := by
  obtain rfl : stage = .filter := by
    cases stage with
    | filter => rfl
    | _ => cases h
  simp only [call, process, Filter.process]
  rcases w.suppressor.filter text now with ⟨verdict, s⟩
  cases verdict <;> rfl

/-- Speech concerns the filters, and what came of it no stage at all. -/
theorem call_plain {stage : Stage} (now : Instant) {text : String} {g : Frame}
    (hg : (Frame.agentSpeech text).Kin g)
    (h : ¬(stage.isFilter = true ∧ g = .agentSpeech text)) : Aloof (stage.call now g) := by
  apply stage.call_aloof now
  rcases hg with rfl | hg
  · exact .inr ⟨Bool.eq_false_iff.mpr fun hf => h ⟨hf, rfl⟩, text, rfl⟩
  · exact .inl hg

end Stage

def Settled (text : String) (now : Instant) (w : Shared) : Prop :=
  (w.suppressor.filter text now).2 = w.suppressor

theorem settled_filter (text : String) (now : Instant) (w : Shared) :
    Settled text now { w with suppressor := (w.suppressor.filter text now).2 } := by
  have hdisarm : ∀ s : Suppressor, (s.disarm.filter text now).2 = s.disarm := fun _ => rfl
  unfold Settled
  cases ha : w.suppressor.isArmed now with
  | false =>
    rw [w.suppressor.filter_unarmed text now ha]
    exact hdisarm _
  | true =>
    rw [w.suppressor.filter_armed text now ha]
    cases hk : w.suppressor.isAcknowledgment text with
    | true => exact hdisarm _
    | false => simp [w.suppressor.filter_armed text now ha, hk]

theorem Stage.call_settled (stage : Stage) (text : String) (now : Instant) {g : Frame}
    (hg : (Frame.agentSpeech text).Kin g) {w : Shared} (h : Settled text now w) :
    Still w (stage.call now g) := by
  by_cases hf : stage.isFilter = true ∧ g = .agentSpeech text
  · obtain ⟨hf, rfl⟩ := hf
    have hfiltered := Stage.call_filter hf text now w
    rw [show (w.suppressor.filter text now).2 = w.suppressor from h] at hfiltered
    exact hfiltered
  · exact (Stage.call_plain now hg hf).still w

end Pipeline

end BargeIn
