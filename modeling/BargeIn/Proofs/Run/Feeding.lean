import BargeIn.Pipeline.Feeding
import BargeIn.Proofs.Run.Pauses

/-!
# What feeding a chain comes to

An input for which nothing is to be done, or a pause of no length, gives the tasks of the chain one
more occasion to go on before the feeder does. They could have gone on anyway, so no state of the
running chain becomes possible by it, and none impossible. To let the tasks go on until none can
before each input is one of the ways in which a chain may be fed.
-/

set_option autoImplicit false

namespace BargeIn.Pipeline

variable {σ ω ι κ : Type}

theorem Order.paced (o : Order) : ∀ d ∈ o.deeds, d.isPaced = true := by
  cases o <;> simp [Order.deeds, Deed.isPaced]

theorem Run.drive_perform [Processor σ ω] (order : Nat → ι → Order) (r : Run σ ω)
    (inputs : List ι) :
    ∃ deeds, (∀ d ∈ deeds, d.isPaced = true) ∧ r.drive order inputs = r.perform deeds := by
  induction inputs generalizing r with
  | nil => exact ⟨[], by simp, rfl⟩
  | cons i inputs ih =>
    obtain ⟨deeds, hpaced, hdrive⟩ := ih (r.perform (order r.now i).deeds)
    refine ⟨(order r.now i).deeds ++ deeds, ?_, ?_⟩
    · exact fun d hd => (List.mem_append.mp hd).elim ((order r.now i).paced d) (hpaced d)
    · rw [Run.perform_append, ← hdrive]
      rfl

/-! ## Inputs that are passed over -/

/-- Inputs that are picked are treated as what they are picked as, and no other takes time. -/
structure Skims (pick : ι → Option κ) (order : Nat → ι → Order) (order' : Nat → κ → Order) :
    Prop where
  kept : ∀ now i k, pick i = some k → order now i = order' now k
  void : ∀ now i, pick i = none → order now i = .skip ∨ order now i = .pause 0

namespace Feeder

def picked (pick : ι → Option κ) : Feeder ι → Feeder κ
  | .ready inputs => .ready (inputs.filterMap pick)
  | .asleep target inputs => .asleep target (inputs.filterMap pick)
  | .sending f inputs => .sending f (inputs.map (·.filterMap pick))
  | .done => .done

theorem picked_isDone (pick : ι → Option κ) (fd : Feeder ι) :
    (fd.picked pick).isDone = fd.isDone := by
  cases fd <;> rfl

theorem picked_alarm (pick : ι → Option κ) (fd : Feeder ι) :
    (fd.picked pick).alarm = fd.alarm := by
  cases fd <;> rfl

end Feeder

namespace Feeding

def picked (pick : ι → Option κ) (s : Feeding σ ω ι) : Feeding σ ω κ :=
  ⟨s.run, s.feeder.picked pick⟩

variable {pick : ι → Option κ} {order : Nat → ι → Order} {order' : Nat → κ → Order}

theorem feed_blocked_iff (pick : ι → Option κ) (order : Nat → ι → Order)
    (order' : Nat → κ → Order) (s : Feeding σ ω ι) :
    ((s.picked pick).feed order').isNone = (s.feed order).isNone := by
  obtain ⟨r, fd⟩ := s
  cases fd with
  | ready inputs =>
    have hready : ∀ {ι : Type} (order : Nat → ι → Order) (inputs : List ι),
        (Feeding.feed (σ := σ) (ω := ω) order ⟨r, .ready inputs⟩).isNone = false := by
      intro ι order inputs
      cases inputs <;> rfl
    exact (hready order' _).trans (hready order inputs).symm
  | asleep target inputs =>
    by_cases hle : target ≤ r.now <;> simp [picked, Feeder.picked, feed, hle]
  | sending f inputs =>
    simp only [picked, Feeder.picked, feed]
    split <;> rfl
  | done => rfl

theorem feed_picked (h : Skims pick order order') {s : Feeding σ ω ι}
    (hnext : ∀ i inputs, s.feeder = .ready (i :: inputs) → (pick i).isSome) :
    (s.picked pick).feed order' = (s.feed order).map (picked pick) := by
  obtain ⟨r, fd⟩ := s
  cases fd with
  | ready inputs =>
    cases inputs with
    | nil => rfl
    | cons i inputs =>
      obtain ⟨k, hk⟩ := Option.isSome_iff_exists.mp (hnext i inputs rfl)
      simp only [picked, Feeder.picked, List.filterMap_cons_some hk, feed, h.kept r.now i k hk]
      cases order' r.now k <;> rfl
  | asleep target inputs =>
    by_cases hle : target ≤ r.now <;> simp [picked, Feeder.picked, feed, hle]
  | sending f inputs =>
    simp only [picked, Feeder.picked, feed]
    split
    · cases inputs <;> rfl
    · rfl
    · rfl
  | done => rfl

/-- The one feeder has the inputs before it that are picked for the other, unless it is about to
wake from a pause of no length. -/
def Skimmed (pick : ι → Option κ) (s : Feeding σ ω ι) (t : Feeding σ ω κ) : Prop :=
  t = s.picked pick ∨ ∃ target inputs, s.feeder = .asleep target inputs ∧ target ≤ s.run.now ∧
    t = ⟨s.run, .ready (inputs.filterMap pick)⟩

theorem skimmed_passed (h : Skims pick order order') {r : Run σ ω} {i : ι} {inputs : List ι}
    (hi : pick i = none) {s' : Feeding σ ω ι}
    (hstep : feed order ⟨r, .ready (i :: inputs)⟩ = some s') :
    Skimmed pick s' ((⟨r, .ready (i :: inputs)⟩ : Feeding σ ω ι).picked pick) := by
  have hsame : (⟨r, .ready (i :: inputs)⟩ : Feeding σ ω ι).picked pick =
      ⟨r, .ready (inputs.filterMap pick)⟩ := by
    simp only [picked, Feeder.picked, List.filterMap_cons_none hi]
  rcases h.void r.now i hi with hskip | hpause
  · simp only [feed, hskip, Option.some.injEq] at hstep
    subst hstep
    exact .inl hsame
  · simp only [feed, hpause, Option.some.injEq, Nat.add_zero] at hstep
    subst hstep
    exact .inr ⟨r.now, inputs, rfl, Nat.le_refl _, hsame⟩

variable [Processor σ ω]

theorem step_picked (h : Skims pick order order') {s : Feeding σ ω ι} {c : Choice}
    (hnext : c = .feed → ∀ i inputs, s.feeder = .ready (i :: inputs) → (pick i).isSome) :
    (s.picked pick).step order' c = (s.step order c).map (picked pick) := by
  cases c with
  | turn | defer | read => rfl
  | feed => exact feed_picked h (hnext rfl)
  | pass ms =>
    have hwaits : (s.picked pick).Waits order' ms ↔ s.Waits order ms := by
      unfold Waits
      rw [feed_blocked_iff pick order order' s]
      simp only [picked, Feeder.picked_alarm]
    by_cases hw : s.Waits order ms
    · simp only [step, if_pos hw, if_pos (hwaits.mpr hw)]
      rfl
    · simp only [step, if_neg hw, if_neg (mt hwaits.mp hw)]
      rfl

theorem after_append (order : Nat → ι → Order) (s : Feeding σ ω ι) (choices later : List Choice) :
    s.after order (choices ++ later) = (s.after order choices).bind (·.after order later) := by
  induction choices generalizing s with
  | nil => rfl
  | cons c choices ih =>
    simp only [List.cons_append, after, Option.bind_assoc]
    exact congrArg _ (funext fun s => ih s)

def Leads (order : Nat → ι → Order) (s t : Feeding σ ω ι) : Prop :=
  ∃ choices, s.after order choices = some t

namespace Leads

variable {s t u : Feeding σ ω ι}

theorem refl (s : Feeding σ ω ι) : Leads order s s := ⟨[], rfl⟩

theorem trans (h : Leads order s t) (h' : Leads order t u) : Leads order s u := by
  obtain ⟨choices, hs⟩ := h
  obtain ⟨later, ht⟩ := h'
  exact ⟨choices ++ later, by rw [after_append, hs, Option.bind_some, ht]⟩

theorem once {c : Choice} (h : s.step order c = some t) : Leads order s t :=
  ⟨[c], by rw [after, h]; rfl⟩

theorem keeps {P : Feeding σ ω ι → Prop}
    (hstep : ∀ s t c, P s → s.step order c = some t → P t) (h : Leads order s t) (hs : P s) :
    P t := by
  obtain ⟨choices, h⟩ := h
  induction choices generalizing s with
  | nil => exact Option.some.inj h ▸ hs
  | cons c choices ih =>
    obtain ⟨u, hu, ht⟩ := Option.bind_eq_some_iff.mp h
    exact ih (hstep s u c hs hu) ht

end Leads

theorem leads_over (h : Skims pick order order') (r : Run σ ω) {void : List ι}
    (hvoid : ∀ i ∈ void, pick i = none) (inputs : List ι) :
    Leads order ⟨r, .ready (void ++ inputs)⟩ ⟨r, .ready inputs⟩ := by
  induction void with
  | nil => exact .refl _
  | cons i void ih =>
    have hlater := ih fun j hj => hvoid j (List.mem_cons_of_mem i hj)
    refine Leads.trans ?_ hlater
    rcases h.void r.now i (hvoid i List.mem_cons_self) with hskip | hpause
    · exact .once (c := .feed) (by simp only [List.cons_append, step, feed, hskip])
    · have hasleep : Leads order (⟨r, .ready (i :: void ++ inputs)⟩ : Feeding σ ω ι)
          ⟨r, .asleep r.now (void ++ inputs)⟩ :=
        .once (c := .feed) (by simp only [List.cons_append, step, feed, hpause, Nat.add_zero])
      exact hasleep.trans (.once (c := .feed) (if_pos (Nat.le_refl r.now)))

theorem leads_ready (h : Skims pick order order') (s : Feeding σ ω ι) :
    ∃ t, Leads order s t ∧ t.picked pick = s.picked pick ∧
      ∀ i inputs, t.feeder = .ready (i :: inputs) → (pick i).isSome := by
  obtain ⟨r, fd⟩ := s
  cases fd with
  | ready inputs =>
    let void := inputs.takeWhile fun i => (pick i).isNone
    let rest := inputs.dropWhile fun i => (pick i).isNone
    have hsplit : void ++ rest = inputs := List.takeWhile_append_dropWhile
    have hvoid : ∀ i ∈ void, pick i = none :=
      fun i hi => by simpa using List.mem_takeWhile_imp hi
    have hover := leads_over h r hvoid rest
    rw [hsplit] at hover
    refine ⟨_, hover, ?_, fun i rest' hi => ?_⟩
    · have hfilter : inputs.filterMap pick = rest.filterMap pick := by
        rw [← hsplit, List.filterMap_append, List.filterMap_eq_nil_iff.mpr hvoid, List.nil_append]
      simp only [picked, Feeder.picked, hfilter]
    · have hrest : rest = i :: rest' := Feeder.ready.inj hi
      have hhead := List.head?_dropWhile_not (fun i => (pick i).isNone) inputs
      rw [show inputs.dropWhile (fun i => (pick i).isNone) = i :: rest' from hrest] at hhead
      simpa using hhead
  | _ => exact ⟨_, .refl _, rfl, by simp⟩

theorem leads_picked (h : Skims pick order order') {s : Feeding σ ω ι} {t' : Feeding σ ω κ}
    (ht : Leads order' (s.picked pick) t') : ∃ t, Leads order s t ∧ t' = t.picked pick := by
  refine ht.keeps (P := fun t' => ∃ t, Leads order s t ∧ t' = t.picked pick) ?_ ⟨s, .refl s, rfl⟩
  rintro _ u' c ⟨t, hlead, rfl⟩ hstep
  obtain ⟨v, hv, hsame, hnext⟩ := leads_ready h t
  rw [← hsame, step_picked h fun _ => hnext] at hstep
  obtain ⟨u, hu, rfl⟩ := Option.map_eq_some_iff.mp hstep
  exact ⟨u, hlead.trans (hv.trans (.once hu)), rfl⟩

/-- Until the feeder wakes the tasks of the chain go on in the same way, and the clock stands
still. -/
theorem skimmed_waking {r : Run σ ω} {target : Nat} {inputs : List ι} (hle : target ≤ r.now)
    {s' : Feeding σ ω ι} {c : Choice}
    (hstep : step order ⟨r, .asleep target inputs⟩ c = some s') :
    ∃ t', Leads order' ⟨r, .ready (inputs.filterMap pick)⟩ t' ∧ Skimmed pick s' t' := by
  have hwoken : (⟨r, .asleep target inputs⟩ : Feeding σ ω ι).feed order =
      some ⟨r, .ready inputs⟩ := if_pos hle
  cases c with
  | turn =>
    obtain rfl := Option.some.inj hstep
    exact ⟨⟨r.turn, _⟩, .once (c := .turn) rfl,
      .inr ⟨target, inputs, rfl, r.turn_now.symm ▸ hle, rfl⟩⟩
  | defer =>
    obtain rfl := Option.some.inj hstep
    exact ⟨⟨r.defer, _⟩, .once (c := .defer) rfl,
      .inr ⟨target, inputs, rfl, r.defer_now.symm ▸ hle, rfl⟩⟩
  | read frames =>
    obtain rfl := Option.some.inj hstep
    exact ⟨⟨r.read frames, _⟩, .once (c := .read frames) rfl,
      .inr ⟨target, inputs, rfl, (r.read_now frames).symm ▸ hle, rfl⟩⟩
  | feed =>
    obtain rfl := Option.some.inj (hwoken.symm.trans hstep)
    exact ⟨_, .refl _, .inl rfl⟩
  | pass ms =>
    have hw : (⟨r, .asleep target inputs⟩ : Feeding σ ω ι).Waits order ms := by
      by_contra hw
      simp [step, hw] at hstep
    simp [Waits, hwoken] at hw

/-- The feeder of the picked inputs does the same, or waits while another input is passed over. -/
theorem skimmed_step (h : Skims pick order order') {s s' : Feeding σ ω ι} {t : Feeding σ ω κ}
    (hskimmed : Skimmed pick s t) {c : Choice} (hstep : s.step order c = some s') :
    ∃ t', Leads order' t t' ∧ Skimmed pick s' t' := by
  obtain ⟨r, fd⟩ := s
  rcases hskimmed with rfl | ⟨target, inputs, hasleep, hle, rfl⟩
  · by_cases hnext : c = .feed → ∀ i inputs, fd = .ready (i :: inputs) → (pick i).isSome
    · have hpicked := step_picked (s := ⟨r, fd⟩) h hnext
      rw [hstep] at hpicked
      exact ⟨s'.picked pick, .once hpicked, .inl rfl⟩
    · simp only [Classical.not_imp, not_forall] at hnext
      obtain ⟨rfl, i, inputs, rfl, hi⟩ := hnext
      exact ⟨_, .refl _, skimmed_passed h (by simpa using hi) hstep⟩
  · obtain rfl : fd = .asleep target inputs := hasleep
    exact skimmed_waking hle hstep

theorem skimmed_leads (h : Skims pick order order') {s s' : Feeding σ ω ι}
    (hs : Leads order s s') : ∃ t, Leads order' (s.picked pick) t ∧ Skimmed pick s' t := by
  refine hs.keeps (P := fun s' => ∃ t, Leads order' (s.picked pick) t ∧ Skimmed pick s' t) ?_
    ⟨_, .refl _, .inl rfl⟩
  rintro u v c ⟨t, hlead, hskimmed⟩ hstep
  obtain ⟨t', hlater, hskimmed'⟩ := skimmed_step h hskimmed hstep
  exact ⟨t', hlead.trans hlater, hskimmed'⟩

theorem attains_iff {first r : Run σ ω} {inputs : List ι} {ended : Bool} :
    Attains order first inputs r ended ↔
      ∃ s, Leads order ⟨first, .ready inputs⟩ s ∧ s.run = r ∧ s.feeder.isDone = ended :=
  ⟨fun ⟨choices, s, hs, hr, he⟩ => ⟨s, ⟨choices, hs⟩, hr, he⟩,
    fun ⟨s, ⟨choices, hs⟩, hr, he⟩ => ⟨choices, s, hs, hr, he⟩⟩

/-- A run that is fed with all inputs can come to just what it can come to with the picked ones. -/
theorem attains_picked (h : Skims pick order order') (first r : Run σ ω) (inputs : List ι)
    (ended : Bool) :
    Attains order first inputs r ended ↔ Attains order' first (inputs.filterMap pick) r ended := by
  rw [attains_iff, attains_iff]
  constructor
  · rintro ⟨s, hs, rfl, rfl⟩
    obtain ⟨t, ht, hskimmed⟩ := skimmed_leads h hs
    refine ⟨t, ht, ?_⟩
    rcases hskimmed with rfl | ⟨target, inputs, hasleep, _, rfl⟩
    · exact ⟨rfl, Feeder.picked_isDone pick _⟩
    · exact ⟨rfl, by rw [hasleep]; rfl⟩
  · rintro ⟨t', ht, rfl, rfl⟩
    obtain ⟨t, hs, rfl⟩ := leads_picked (s := ⟨first, .ready inputs⟩) h ht
    exact ⟨t, hs, rfl, (Feeder.picked_isDone pick _).symm⟩

/-! ## Tasks that go on until none can -/

theorem leads_settle (order : Nat → ι → Order) (r : Run σ ω) (fd : Feeder ι) :
    Leads order ⟨r, fd⟩ ⟨r.settle, fd⟩ := by
  apply Run.settle_keeps (P := fun v => Leads order ⟨r, fd⟩ ⟨v, fd⟩) _ (.refl _)
  intro v v' hlead hstep
  refine hlead.trans (.once (c := .turn) ?_)
  simp only [step, Run.turn, hstep, Option.getD_some]

theorem leads_pass (order : Nat → ι → Order) {r : Run σ ω} (hidle : r.Idle)
    (hreader : r.reader = .prompt) {ms target : Nat} (hlt : r.now < ms) (hle : ms ≤ target)
    (halarms : ∀ a ∈ r.alarms, ms ≤ a.1) (inputs : List ι) :
    Leads order ⟨r, .asleep target inputs⟩ ⟨r.rung ms, .asleep target inputs⟩ := by
  have hasleep : ¬target ≤ r.now := by omega
  refine .once (c := .pass ms) (if_pos ⟨hidle.ready, ?_, ?_, hlt, halarms, ?_⟩)
  · simp [hreader, Reader.unread]
  · simp [feed, hasleep]
  · simpa [Feeder.alarm] using hle

structure Composed (r : Run σ ω) : Prop extends r.Steady where
  ahead : r.Idle
  stages : r.stations ≠ []

theorem leads_send (order : Nat → ι → Order) {r : Run σ ω} (h : Composed r) (f : Frame)
    (inputs : Option (List ι)) :
    Leads order ⟨r, .sending f inputs⟩ ⟨r.send f, (inputs.map .ready).getD .done⟩ := by
  have hentry := h.toSteady.entry h.stages
  rw [h.toSteady.send_eq h.stages]
  refine Leads.trans (.once (c := .feed) ?_) (leads_settle order (r.posted f) _)
  simp only [step, feed, hentry]

variable [Tame σ]

theorem leads_passUntil (order : Nat → ι → Order) {r : Run σ ω} (hidle : r.Idle)
    (hreader : r.reader = .prompt) {target k : Nat} (hle : r.now ≤ target)
    (hk : target ≤ r.now + k) (inputs : List ι) :
    Leads order ⟨r, .asleep target inputs⟩
      ⟨Run.passUntil target k r, .asleep target inputs⟩ := by
  have hlast : ∀ {r : Run σ ω}, r.Idle → r.reader = .prompt → r.now ≤ target →
      (∀ a ∈ r.alarms, target < a.1) →
      Leads order ⟨r, .asleep target inputs⟩ ⟨r.clocked target, .asleep target inputs⟩ := by
    intro r hidle hreader hle halarms
    rcases Nat.eq_or_lt_of_le hle with heq | hlt
    · exact heq ▸ .refl _
    · have hpass := leads_pass order hidle hreader hlt (Nat.le_refl target)
        (fun a ha => Nat.le_of_lt (halarms a ha)) inputs
      rwa [Run.rung_late halarms] at hpass
  induction k generalizing r with
  | zero =>
    obtain rfl : r.now = target := by omega
    exact hlast hidle hreader hle hidle.ahead
  | succ k ih =>
    rcases hidle.next_cases target with hlate | ⟨t, hn, hlt, hle'⟩
    · rw [Run.passUntil_idle hlate]
      exact hlast hidle hreader hle (Run.alarms_after hlate)
    · have hnow := r.ring_now t
      have hprompt : (r.ring t).reader = .prompt := by
        obtain ⟨woken, hring, _⟩ := r.ring_eq t
        rw [hring]
        exact Run.prompt_lasts.settle (t := []) (Run.prompt_lasts.clock (t := []) hreader woken t)
      have hnext : ∀ a ∈ r.alarms, t ≤ a.1 :=
        fun a ha => (List.min?_eq_some_iff.mp hn).2 a.1 (List.mem_map_of_mem ha)
      have hlater := ih (r.ring_idle t) hprompt (by omega) (by omega)
      rw [Run.passUntil_ring hn hle']
      refine (leads_pass order hidle hreader hlt hle' hnext inputs).trans ?_
      exact (leads_settle order (r.rung t) _).trans hlater

theorem Composed.obey {r : Run σ ω} (h : Composed r) (o : Order) :
    Composed (r.perform o.deeds) := by
  have hpaced := o.paced
  have hlength :=
    (Run.length_persists (σ := σ) (ω := ω) r.stations.length).paced (t := []) rfl hpaced
  have hahead := h.ahead.perform fun d hd => hpaced d (List.mem_of_getLast? hd)
  refine ⟨h.toSteady.perform hpaced, hahead, ?_⟩
  simpa [← List.length_eq_zero_iff, hlength] using h.stages

theorem leads_obey (order : Nat → ι → Order) {r : Run σ ω} (h : Composed r) (i : ι)
    (inputs : List ι) :
    Leads order ⟨r, .ready (i :: inputs)⟩ ⟨r.perform (order r.now i).deeds, .ready inputs⟩ := by
  cases ho : order r.now i with
  | skip => exact .once (c := .feed) (by simp only [step, feed, ho]; rfl)
  | pause ms =>
    have htaken : Leads order (⟨r, .ready (i :: inputs)⟩ : Feeding σ ω ι)
        ⟨r, .asleep (r.now + ms) inputs⟩ := .once (c := .feed) (by simp only [step, feed, ho])
    have hnow := r.settle_now
    have hslept : Leads order (⟨r.settle, .asleep (r.now + ms) inputs⟩ : Feeding σ ω ι)
        ⟨Run.passUntil (r.now + ms) ms r.settle, .asleep (r.now + ms) inputs⟩ :=
      leads_passUntil order h.ahead.timely.settle (Run.prompt_lasts.settle (t := []) h.reader)
        (by omega) (by omega) inputs
    refine htaken.trans ((leads_settle order r _).trans (hslept.trans (.once (c := .feed) ?_)))
    exact if_pos (Nat.le_of_eq (Run.passUntil_now _ ms r.settle).symm)
  | send f =>
    have htaken : Leads order (⟨r, .ready (i :: inputs)⟩ : Feeding σ ω ι)
        ⟨r, .sending f (some inputs)⟩ := .once (c := .feed) (by simp only [step, feed, ho])
    exact htaken.trans (leads_send order h f (some inputs))

theorem leads_drive (order : Nat → ι → Order) {r : Run σ ω} (h : Composed r) (inputs : List ι) :
    Leads order ⟨r, .ready inputs⟩ ⟨r.drive order inputs, .ready []⟩ ∧
      Composed (r.drive order inputs) := by
  induction inputs generalizing r with
  | nil => exact ⟨.refl _, h⟩
  | cons i inputs ih =>
    obtain ⟨hlead, hcomposed⟩ := ih (h.obey (order r.now i))
    exact ⟨(leads_obey order h i inputs).trans hlead, hcomposed⟩

/-- Inputs that are passed over make no difference to a run at rest. -/
theorem drive_picked (h : Skims pick order order') {r : Run σ ω} (hready : r.ready = [])
    (inputs : List ι) : r.drive order inputs = r.drive order' (inputs.filterMap pick) := by
  induction inputs generalizing r with
  | nil => rfl
  | cons i inputs ih =>
    have hnext := ih (Run.perform_ready hready (order r.now i).paced)
    cases hi : pick i with
    | some k =>
      rw [List.filterMap_cons_some hi]
      rw [h.kept r.now i k hi] at hnext
      simpa only [Run.drive, List.foldl_cons, h.kept r.now i k hi] using hnext
    | none =>
      have hsame : r.perform (order r.now i).deeds = r := by
        rcases h.void r.now i hi with hskip | hpause
        · rw [hskip]
          rfl
        · rw [hpause]
          show r.sleep 0 = r
          rw [Run.sleep, Run.settle_idle hready]
          rfl
      rw [List.filterMap_cons_none hi]
      rw [hsame] at hnext
      simpa only [Run.drive, List.foldl_cons, hsame] using hnext

theorem Composed.start (chain : Chain σ ω) (hchain : chain.stages ≠ []) (conversation : Conversation)
    {capacity : Nat} (hcapacity : 0 < capacity) :
    Composed (Run.start chain conversation capacity) := by
  refine ⟨.start chain conversation hcapacity, Run.start_idle chain conversation capacity, ?_⟩
  have hlength := Run.start_length chain conversation capacity
  simpa [← List.length_eq_zero_iff, hlength] using hchain

/-- To let the tasks go on until none can before each input, and before the end of the stream, is a
way to feed the chain. -/
theorem attains_drive (order : Nat → ι → Order) (chain : Chain σ ω) (hchain : chain.stages ≠ [])
    (conversation : Conversation) {capacity : Nat} (hcapacity : 0 < capacity) (inputs : List ι) :
    Attains order (Run.unstarted chain conversation capacity) inputs
      (((Run.start chain conversation capacity).drive order inputs).send .endOfStream) true := by
  have hstart := Composed.start chain hchain conversation hcapacity
  obtain ⟨hdriven, hcomposed⟩ := leads_drive order hstart inputs
  refine attains_iff.mpr ⟨⟨_, .done⟩, ?_, rfl, rfl⟩
  refine (leads_settle order _ _).trans (hdriven.trans ?_)
  exact Leads.trans (.once (c := .feed) rfl) (leads_send order hcomposed .endOfStream none)

end Feeding

end BargeIn.Pipeline
