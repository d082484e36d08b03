import BargeIn.Proofs.Run.Flow

/-!
# What is done to a run

Frames are sent to a run, its tasks take turns, time passes, the reader takes what came out, and
each of its ends may be closed. What each move keeps, and what neither a frame that comes in nor
the clock touches, lasts as long as the run goes on.
-/

set_option autoImplicit false

namespace BargeIn.Pipeline.Run

variable {σ ω : Type}

/-! ## Frames, turns and alarms -/

theorem wakeAll_eq (r : Run σ ω) (alarms : List (Nat × Nat)) :
    ∃ woken, alarms.foldl (fun r alarm => r.wake alarm.2) r = r.roused woken ∧
      ∀ a ∈ alarms, a.2 ∈ r.ready ++ woken := by
  induction alarms generalizing r with
  | nil => exact ⟨[], r.roused_nil.symm, by simp⟩
  | cons a alarms ih =>
    obtain ⟨woken, hw, hwakes⟩ := r.wake_eq a.2
    obtain ⟨later, hlater, hawake⟩ := ih (r.roused woken)
    refine ⟨woken ++ later, ?_, ?_⟩
    · rw [List.foldl_cons, hw, hlater]
      simp [roused]
    · rw [← List.append_assoc]
      intro b hb
      rcases List.mem_cons.mp hb with rfl | hb
      · exact List.mem_append_left later (hwakes.awake b.2 rfl)
      · exact hawake b hb

theorem post_eq (r : Run σ ω) (f : Frame) :
    r.entry = .accepted ∧ r.post f = r.posted f ∨ r.entry ≠ .accepted ∧ r.post f = r := by
  unfold post
  cases r.entry <;> simp

theorem posted_now (r : Run σ ω) (f : Frame) : (r.posted f).now = r.now := by
  cases hs : r.stations[0]? with
  | none => simp only [posted, hs]
  | some s =>
    obtain ⟨woken, hposted⟩ := posted_eq hs f
    rw [hposted]
    rfl

theorem post_now (r : Run σ ω) (f : Frame) : (r.post f).now = r.now := by
  rcases r.post_eq f with ⟨_, hpost⟩ | ⟨_, hpost⟩
  · rw [hpost, posted_now]
  · rw [hpost]

theorem read_eq (r : Run σ ω) (frames : Option Nat) :
    ∃ woken, r.read frames = { r with reader := r.reader.take frames }.roused woken := by
  obtain ⟨woken, hw, _⟩ :=
    { r with reader := r.reader.take frames }.wakeSender_eq r.stations.length
  exact ⟨woken, hw⟩

theorem closeOutput_eq (r : Run σ ω) :
    ∃ woken, r.closeOutput = { r with reader := .gone }.roused woken := by
  obtain ⟨woken, hw, _⟩ := { r with reader := .gone }.wakeSender_eq r.stations.length
  exact ⟨woken, hw⟩

theorem closeInput_eq (r : Run σ ω) :
    ∃ woken, r.closeInput = { r with inputOpen := false }.roused woken := by
  obtain ⟨woken, hw, _⟩ := wake_eq { r with inputOpen := false } 0
  exact ⟨woken, hw⟩

theorem defer_eq (r : Run σ ω) :
    ∃ ready, r.defer = { r with ready } ∧ ∀ i ∈ r.ready, i ∈ ready := by
  unfold defer
  split
  case h_1 hr => exact ⟨r.ready, rfl, by simp [hr]⟩
  case h_2 i rest hr => exact ⟨rest ++ [i], rfl, by simp [hr, or_comm]⟩

theorem defer_now (r : Run σ ω) : r.defer.now = r.now := by
  obtain ⟨ready, hdefer, _⟩ := r.defer_eq
  rw [hdefer]

theorem read_now (r : Run σ ω) (frames : Option Nat) : (r.read frames).now = r.now := by
  obtain ⟨woken, hread⟩ := r.read_eq frames
  rw [hread]
  rfl

variable [Processor σ ω]

theorem perform_append (r : Run σ ω) (deeds later : List Deed) :
    r.perform (deeds ++ later) = (r.perform deeds).perform later := by
  induction deeds generalizing r with
  | nil => rfl
  | cons d deeds ih => exact ih (r.deed d)

theorem answers_append (r : Run σ ω) (deeds later : List Deed) :
    r.answers (deeds ++ later) = r.answers deeds ++ (r.perform deeds).answers later := by
  induction deeds generalizing r with
  | nil => rfl
  | cons d deeds ih =>
    rw [List.cons_append, answers, answers, ih, List.append_assoc]
    rfl

theorem turn_cases (r : Run σ ω) : r.step = some r.turn ∨ r.step = none ∧ r.turn = r := by
  unfold turn
  cases r.step <;> simp

/-! ## The clock -/

theorem step_now {r r' : Run σ ω} (h : r.step = some r') : r'.now = r.now := by
  obtain ⟨i, rest, hr, ⟨hn, rfl⟩ | ⟨s, v, goesOn, hs, hm, rfl⟩⟩ := step_cases h
  · rfl
  · have hleaves := hm.leaves
    cases goesOn <;> exact hleaves.now

theorem turn_now (r : Run σ ω) : r.turn.now = r.now := by
  rcases r.turn_cases with hturn | ⟨_, hturn⟩
  · exact step_now hturn
  · rw [hturn]

theorem settle_now (r : Run σ ω) : r.settle.now = r.now :=
  settle_keeps (P := fun v => v.now = r.now) (fun _ _ h hstep => (step_now hstep).trans h) rfl

theorem ring_now (r : Run σ ω) (ms : Nat) : (r.ring ms).now = ms :=
  settle_now _

theorem passUntil_now (target left : Nat) (r : Run σ ω) :
    (passUntil target left r).now = target := by
  induction left generalizing r with
  | zero => rfl
  | succ left ih =>
    cases hn : r.nextAlarm with
    | none => simp only [passUntil, hn]
    | some t =>
      by_cases hle : t ≤ target
      · rw [passUntil_ring hn hle]
        exact ih _
      · simp only [passUntil, hn, hle, if_false]

theorem sleep_now (r : Run σ ω) (ms : Nat) : (r.sleep ms).now = r.now + ms :=
  passUntil_now _ ms r.settle

theorem send_now (r : Run σ ω) (f : Frame) : (r.send f).now = r.now := by
  rw [send, settle_now, post_now]

theorem step_ends {r r' : Run σ ω} (h : r.step = some r') :
    r'.inputOpen = r.inputOpen ∧ (r'.reader = r.reader ∨ r'.reader = r.reader.offered) ∧
      r'.capacity = r.capacity := by
  obtain ⟨i, rest, hr, ⟨hn, rfl⟩ | ⟨s, v, goesOn, hs, hm, rfl⟩⟩ := step_cases h
  · exact ⟨rfl, .inl rfl, rfl⟩
  · have hleaves := hm.leaves
    cases goesOn <;> exact ⟨hleaves.input, hleaves.reader, hleaves.capacity⟩

theorem ring_eq (r : Run σ ω) (ms : Nat) :
    ∃ woken, r.ring ms = settle { r.roused woken with now := ms } ∧
      ∀ a ∈ r.alarms, a.1 ≤ ms → a.2 ∈ r.ready ++ woken := by
  obtain ⟨woken, hw, hawake⟩ := r.wakeAll_eq (r.alarms.filter (·.1 ≤ ms))
  refine ⟨woken, congrArg (fun r : Run σ ω => settle { r with now := ms }) hw, ?_⟩
  intro a ha hle
  exact hawake a (List.mem_filter.mpr ⟨ha, decide_eq_true hle⟩)

theorem passUntil_keeps {P : Run σ ω → Prop} (hclock : ∀ r ms, P r → P { r with now := ms })
    (hring : ∀ r ms, P r → P (r.ring ms)) (target left : Nat) {r : Run σ ω} (h : P r) :
    P (passUntil target left r) := by
  induction left generalizing r with
  | zero => exact hclock r target h
  | succ left ih =>
    cases hn : r.nextAlarm with
    | none =>
      simp only [passUntil, hn]
      exact hclock r target h
    | some ms =>
      by_cases hle : ms ≤ target
      · rw [passUntil_ring hn hle]
        exact ih (hring r ms h)
      · simp only [passUntil, hn, hle, if_false]
        exact hclock r target h

theorem sleep_keeps {P : Run σ ω → Prop} (hstep : ∀ r r', P r → r.step = some r' → P r')
    (hclock : ∀ r woken ms, P r → P { r.roused woken with now := ms }) {r : Run σ ω} (h : P r)
    (ms : Nat) : P (r.sleep ms) := by
  apply passUntil_keeps _ _ _ ms (settle_keeps hstep h)
  · intro r ms h
    simpa only [roused_nil] using hclock r [] ms h
  · intro r ms h
    obtain ⟨woken, hring, _⟩ := r.ring_eq ms
    rw [hring]
    exact settle_keeps hstep (hclock r woken ms h)

/-! ## What lasts -/

/-- The tasks keep the property of the run and of the frames that it has taken, and so do their
turns, the clock and a frame that comes in. -/
structure Lasts (P : List Frame → Run σ ω → Prop) : Prop where
  step : ∀ taken r r', P taken r → r.step = some r' → P taken r'
  aside : ∀ taken r ready ms, (∀ i ∈ r.ready, i ∈ ready) → P taken r →
    P taken { r with ready, now := ms }
  posted : ∀ taken r f, r.entry = .accepted → P taken r → P (taken ++ [f]) (r.posted f)

namespace Lasts

variable {P : List Frame → Run σ ω → Prop} {t : List Frame} {r : Run σ ω}

theorem settle (hP : Lasts P) (h : P t r) : P t r.settle :=
  settle_keeps (hP.step t) h

theorem clock (hP : Lasts P) (h : P t r) (woken : List Nat) (ms : Nat) :
    P t { r.roused woken with now := ms } :=
  hP.aside t r (r.ready ++ woken) ms (fun _ hi => List.mem_append_left woken hi) h

theorem sleep (hP : Lasts P) (h : P t r) (ms : Nat) : P t (r.sleep ms) :=
  sleep_keeps (hP.step t) (fun _ woken ms h => hP.clock h woken ms) h ms

theorem post (hP : Lasts P) (h : P t r) (f : Frame) :
    P (t ++ [f].filter fun _ => r.entry = .accepted) (r.post f) := by
  rcases r.post_eq f with ⟨hentry, hpost⟩ | ⟨hentry, hpost⟩
  · rw [hpost]
    simpa [hentry] using hP.posted t r f hentry h
  · rw [hpost]
    simpa [hentry] using h

theorem paced (hP : Lasts P) (h : P t r) {deeds : List Deed}
    (hdeeds : ∀ d ∈ deeds, d.isPaced = true) : P (t ++ r.taken deeds) (r.perform deeds) := by
  have hnone : ∀ {t} {v : Run σ ω}, P t v → P (t ++ []) v := fun h => by simpa using h
  induction deeds generalizing t r with
  | nil => exact hnone h
  | cons d deeds ih =>
    have hlater := fun e he => hdeeds e (List.mem_cons_of_mem d he)
    rw [Run.taken, ← List.append_assoc]
    refine ih ?_ hlater
    have hd := hdeeds d List.mem_cons_self
    cases d with
    | send f => exact hP.settle (hP.post h f)
    | pause ms => exact hnone (hP.sleep h ms)
    | _ => cases hd

end Lasts

/-- The reader keeps the property as well. -/
structure Persists (P : List Frame → Run σ ω → Prop) : Prop extends Lasts P where
  read : ∀ t r frames, P t r → P t (r.read frames)

namespace Persists

variable {P : List Frame → Run σ ω → Prop} {t : List Frame} {r : Run σ ω}

theorem deed (hP : Persists P) (h : P t r) {d : Deed} (hd : d.isOpen = true) :
    P (t ++ d.frame.toList.filter fun _ => r.entry = .accepted) (r.deed d) := by
  have hnone : ∀ {v : Run σ ω}, P t v → P (t ++ []) v := fun h => by simpa using h
  cases d with
  | send f => exact hP.settle (hP.post h f)
  | post f => exact hP.post h f
  | pause ms => exact hnone (hP.sleep h ms)
  | read frames => exact hnone (hP.read t r frames h)
  | turn =>
    apply hnone
    rcases r.turn_cases with hturn | ⟨_, hturn⟩
    · exact hP.step t r r.turn h hturn
    · exact Eq.substr (p := P t) hturn h
  | defer =>
    obtain ⟨ready, hdefer, hready⟩ := r.defer_eq
    exact hnone (Eq.substr (p := P t) hdefer (hP.aside t r ready r.now hready h))
  | closeOutput | closeInput => cases hd

theorem perform (hP : Persists P) (h : P t r) {deeds : List Deed}
    (hdeeds : ∀ d ∈ deeds, d.isOpen = true) : P (t ++ r.taken deeds) (r.perform deeds) := by
  induction deeds generalizing t r with
  | nil => exact Eq.substr (p := (P · r)) (List.append_nil t) h
  | cons d deeds ih =>
    rw [Run.taken, ← List.append_assoc]
    exact ih (hP.deed h (hdeeds d List.mem_cons_self))
      fun e he => hdeeds e (List.mem_cons_of_mem d he)

end Persists

theorem Persists.perform_closing {P : Run σ ω → Prop} {A : Deed → Prop}
    (hP : Persists fun _ r => P r)
    (hclose : ∀ r d, A d → d.isOpen = false → P r → P (r.deed d)) {r : Run σ ω} (h : P r)
    {deeds : List Deed} (hdeeds : ∀ d ∈ deeds, A d) : P (r.perform deeds) := by
  induction deeds generalizing r with
  | nil => exact h
  | cons d deeds ih =>
    refine ih ?_ fun e he => hdeeds e (List.mem_cons_of_mem d he)
    cases hopen : d.isOpen with
    | true => exact hP.deed (t := []) h hopen
    | false => exact hclose r d (hdeeds d List.mem_cons_self) hopen h

theorem Persists.ofStations {Q : List (Station σ) → Prop}
    (hmoves : ∀ (r v : Run σ ω) (i : Nat) (s : Station σ) (goesOn : Bool), Q r.stations →
      r.stations[i]? = some s → Moves r i s v goesOn → Q v.stations)
    (hjoin : ∀ (r : Run σ ω) (s : Station σ) (f : Frame), Q r.stations →
      r.stations[0]? = some s → s.isStopped = false →
        Q (r.update 0 { s with inbox := s.inbox ++ [f] }).stations) :
    Persists fun _ (r : Run σ ω) => Q r.stations where
  step _ r r' h hstep := by
    obtain ⟨i, rest, hr, ⟨hn, rfl⟩ | ⟨s, v, goesOn, hs, hm, rfl⟩⟩ := step_cases hstep
    · exact h
    · have hmoved := hmoves (r.hushed i) v i s goesOn h hs hm
      cases goesOn <;> exact hmoved
  aside _ _ _ _ _ h := h
  posted _ r f hentry h := by
    obtain ⟨s, hs, _, hrunning, _⟩ := entry_accepted_iff.mp hentry
    obtain ⟨woken, hposted⟩ := posted_eq hs f
    rw [hposted]
    exact hjoin r s f h hs hrunning
  read _ r frames h := by
    obtain ⟨woken, hread⟩ := r.read_eq frames
    rw [hread]
    exact h

theorem length_persists (n : Nat) : Persists fun _ (r : Run σ ω) => r.stations.length = n := by
  apply Persists.ofStations (Q := fun stations => stations.length = n)
  · exact fun r v i s goesOn h hs hm => hm.leaves.length.trans h
  · exact fun r s f h hs _ => List.length_set.trans h

theorem start_length (chain : Chain σ ω) (conversation : Conversation) (capacity : Nat) :
    (start chain conversation capacity).stations.length = chain.stages.length :=
  (length_persists chain.stages.length).settle (t := []) (List.length_map _)

theorem Flowing.persists : Persists fun _ (r : Run σ ω) => r.Flowing where
  step _ _ _ h hstep := h.step hstep
  aside _ _ _ ms hready h := h.aside hready ms
  posted _ _ f _ h := h.posted f
  read _ _ frames h := h.read frames

theorem Flowing.begun (chain : Chain σ ω) (conversation : Conversation) {capacity : Nat}
    (hcapacity : 0 < capacity) : (start chain conversation capacity).Flowing :=
  Flowing.persists.settle (t := []) (.unstarted chain conversation hcapacity)

/-! ## Paced runs -/

theorem prompt_lasts : Lasts fun _ (r : Run σ ω) => r.reader = .prompt where
  step _ r r' h hstep := by
    rcases (step_ends hstep).2.1 with hsame | hsame <;> rw [hsame, h]
    rfl
  aside _ _ _ _ _ h := h
  posted _ r f hentry h := by
    obtain ⟨s, hs, _⟩ := entry_accepted_iff.mp hentry
    obtain ⟨woken, hposted⟩ := posted_eq hs f
    rw [hposted]
    exact h

theorem perform_ready [Tame σ] {r : Run σ ω} (h : r.ready = []) {deeds : List Deed}
    (hdeeds : ∀ d ∈ deeds, d.isPaced = true) : (r.perform deeds).ready = [] := by
  induction deeds generalizing r with
  | nil => exact h
  | cons d deeds ih =>
    refine ih ?_ fun e he => hdeeds e (List.mem_cons_of_mem d he)
    have hd := hdeeds d List.mem_cons_self
    cases d with
    | send f => exact settle_ready _
    | pause ms =>
      exact passUntil_keeps (P := fun r => r.ready = []) (fun _ _ h => h)
        (fun _ _ _ => settle_ready _) _ ms (settle_ready r)
    | _ => cases hd

namespace Steady

variable {r : Run σ ω}

theorem start [Tame σ] (chain : Chain σ ω) (conversation : Conversation) {capacity : Nat}
    (hcapacity : 0 < capacity) : (Run.start chain conversation capacity).Steady :=
  ⟨.begun chain conversation hcapacity, settle_ready _, prompt_lasts.settle (t := []) rfl⟩

theorem perform [Tame σ] (h : r.Steady) {deeds : List Deed}
    (hdeeds : ∀ d ∈ deeds, d.isPaced = true) : (r.perform deeds).Steady :=
  ⟨Flowing.persists.paced (t := []) h.flowing hdeeds, perform_ready h.idle hdeeds,
    prompt_lasts.paced (t := []) h.reader hdeeds⟩

theorem send [Tame σ] (h : r.Steady) (f : Frame) : (r.send f).Steady :=
  h.perform (List.forall_mem_singleton.mpr (rfl : (Deed.send f).isPaced = true))

theorem entry (h : r.Steady) (hstages : r.stations ≠ []) : r.entry = .accepted := by
  obtain ⟨s, hs⟩ : ∃ s, r.stations[0]? = some s :=
    ⟨_, List.getElem?_eq_getElem (List.length_pos_iff.mpr hstages)⟩
  exact h.flowing.entry_open hs (h.atRest _ (List.mem_of_getElem? hs))

theorem post_eq (h : r.Steady) (hstages : r.stations ≠ []) (f : Frame) :
    r.post f = r.posted f := by
  simp [post, h.entry hstages]

theorem send_eq (h : r.Steady) (hstages : r.stations ≠ []) (f : Frame) :
    r.send f = (r.posted f).settle :=
  congrArg settle (h.post_eq hstages f)

theorem taken [Tame σ] (h : r.Steady) (hstages : r.stations ≠ []) {deeds : List Deed}
    (hdeeds : ∀ d ∈ deeds, d.isPaced = true) : r.taken deeds = deeds.filterMap Deed.frame := by
  induction deeds generalizing r with
  | nil => rfl
  | cons d deeds ih =>
    have hone : ∀ e ∈ [d], e.isPaced = true :=
      List.forall_mem_singleton.mpr (hdeeds d List.mem_cons_self)
    have hnext : (r.deed d).Steady := h.perform hone
    have hlength : (r.deed d).stations.length = r.stations.length :=
      (length_persists r.stations.length).paced (t := []) rfl hone
    have hlater := ih hnext (by simpa [← List.length_eq_zero_iff, hlength] using hstages)
      fun e he => hdeeds e (List.mem_cons_of_mem d he)
    rw [Run.taken, hlater]
    cases hd : d.frame <;> simp [hd, h.entry hstages]

end Steady

end BargeIn.Pipeline.Run
