import BargeIn.Proofs.Pipeline.Stages
import BargeIn.Proofs.Pipeline.Standard
import BargeIn.Proofs.Run.Deeds
import BargeIn.Proofs.Run.Unfinished

/-!
# A frame under way

A frame that is sent to a run at rest, and what comes of it, is all that is under way until the
run has settled. Whatever task goes on, what comes out in the end is what comes out if the stations
finish their work one after the other, since the work that is done early can be swapped with the
work that is still to be done before it.
-/

set_option autoImplicit false

namespace BargeIn.Pipeline

/-! ## What is under way -/

structure Unheard (f : Frame) (m i : Nat) (s : Station Stage) : Prop where
  before : i < m → s.stage.isFilter = false
  first : i = m → s.stage.isFilter = true
  inbox : f ∈ s.inbox → i ≤ m
  owed : f ∈ s.task.owed → i < m

/-- One frame of the input, and what came of it, is on its way. -/
structure Underway (f : Frame) (now : Instant) (stations : List (Station Stage))
    (w : Shared) : Prop where
  fits : ∀ s ∈ stations, s.Fits f
  heard : ∀ text, f = .agentSpeech text → Settled text now w ∨
    ∃ m, ∀ i s, stations[i]? = some s → Unheard f m i s

theorem exists_split {α : Type} {l : List α} {i : Nat} {a : α} (h : l[i]? = some a) :
    ∃ front later, l = front ++ a :: later ∧ front.length = i ∧
      ∀ b, l.set i b = front ++ b :: later := by
  obtain ⟨hi, rfl⟩ := List.getElem?_eq_some_iff.mp h
  refine ⟨l.take i, l.drop (i + 1), ?_, ?_, ?_⟩
  · simp
  · simp [Nat.min_eq_left (Nat.le_of_lt hi)]
  · intro b
    rw [List.set_eq_take_append_cons_drop, if_pos hi]

theorem unheard_set {f : Frame} {m i : Nat} {stations : List (Station Stage)} {s' : Station Stage}
    (h : ∀ j t, stations[j]? = some t → Unheard f m j t) (hs' : Unheard f m i s') :
    ∀ j t, (stations.set i s')[j]? = some t → Unheard f m j t := by
  intro j t ht
  by_cases hij : i = j
  · subst hij
    obtain ⟨hi, rfl⟩ := List.getElem?_eq_some_iff.mp ht
    rw [List.getElem_set_self]
    exact hs'
  · rw [List.getElem?_set_ne hij] at ht
    exact h j t ht

namespace Underway

variable {f : Frame} {now : Instant} {stations front later : List (Station Stage)}
  {w : Shared} {s : Station Stage} {i : Nat}

/-- The stations before one finish their work in the same way, whatever they do first. -/
theorem front_keeps (h : Underway f now stations w) (hsplit : stations = front ++ s :: later)
    {L : Law Shared} {kind : Bool → Prop} (hobeys : Obeys L kind f now)
    (hkind : ∀ t ∈ front, kind t.stage.isFilter) : L.Keeps (finishAll now front []) := by
  apply hobeys.finishAll_keeps
  · intro t ht
    exact ⟨h.fits t (hsplit ▸ List.mem_append_left _ ht), hkind t ht⟩
  · simp

theorem call_swaps (h : Underway f now stations w) (hsplit : stations = front ++ s :: later)
    {g : Frame} (hg : g ∈ s.inbox) : Swaps w (finishAll now front []) (s.stage.call now g) := by
  have hs : s ∈ stations := by simp [hsplit]
  have hkin : f.Kin g := (h.fits s hs).inbox g hg
  rcases speech_or_other f with ⟨text, rfl⟩ | hf
  · rcases h.heard text rfl with hsettled | ⟨m, hm⟩
    · have hobeys := Obeys.settled hsettled
      have hfront := h.front_keeps hsplit hobeys (fun _ _ => trivial)
      exact Still.swaps hfront (hobeys.call s.stage g trivial hkin)
    · have hunheard := hm front.length s (by simp [hsplit])
      by_cases hcall : s.stage.isFilter = true ∧ g = .agentSpeech text
      · obtain ⟨hfilter, rfl⟩ := hcall
        have hle := hunheard.inbox hg
        -- all stations before the first filter leave the suppressor alone
        have hfront := h.front_keeps hsplit (Obeys.unfiltered text now) (by
          intro t ht
          obtain ⟨j, hj, rfl⟩ := List.mem_iff_getElem.mp ht
          have hat : stations[j]? = some front[j] := by
            rw [hsplit, List.getElem?_append_left hj, List.getElem?_eq_getElem hj]
          exact (hm j _ hat).before (by omega))
        exact Aloof.swaps hfront _ w
      · have hplain := Stage.call_plain now hkin hcall
        exact (hplain.swaps _ w).symm
  · have hobeys := Obeys.unspoken hf now w.vocabularies
    have hfront := h.front_keeps hsplit hobeys (fun _ _ => trivial)
    exact Tinged.swaps hfront (hobeys.call s.stage g trivial hkin) (Changes.ofFrame_within f w)

theorem close_swaps (h : Underway f now stations w) (hsplit : stations = front ++ s :: later)
    {atEnd : Bool} (hend : atEnd = true → f = .endOfStream) :
    Swaps w (finishAll now front []) (s.stage.close atEnd) := by
  cases atEnd with
  | false =>
    have hplain : Aloof (s.stage.close false) := ⟨s.stage, fun _ => rfl⟩
    exact (hplain.swaps _ w).symm
  | true =>
    obtain rfl := hend rfl
    have hobeys := Obeys.unspoken (f := .endOfStream) (by simp) now w.vocabularies
    have hfront := h.front_keeps hsplit hobeys (fun _ _ => trivial)
    exact Tinged.swaps hfront (s.stage.close_tinged w.vocabularies) (Changes.ofFrame_within _ w)

theorem fits_set {s' : Station Stage} (h : Underway f now stations w) (hs' : s'.Fits f) :
    ∀ t ∈ stations.set i s', t.Fits f := by
  intro t ht
  rcases List.mem_or_eq_of_mem_set ht with ht | rfl
  · exact h.fits t ht
  · exact hs'

theorem set {s' : Station Stage} (h : Underway f now stations w) (hs' : s'.Fits f)
    (hunheard : ∀ m, (∀ j t, stations[j]? = some t → Unheard f m j t) → Unheard f m i s') :
    Underway f now (stations.set i s') w where
  fits := h.fits_set hs'
  heard text ht := (h.heard text ht).imp_right fun ⟨m, hm⟩ => ⟨m, unheard_set hm (hunheard m hm)⟩

theorem takes (h : Underway f now stations w) (hs : stations[i]? = some s) {g : Frame}
    {gs : List Frame} (hg : s.inbox = g :: gs) (c : Conversation) :
    Underway f now
      (stations.set i ⟨(s.stage.call now g w).1.1, c, gs,
        .delivering (s.stage.call now g w).1.2 g.isEndOfStream⟩)
      (s.stage.call now g w).2 := by
  have hfits := h.fits s (List.mem_of_getElem? hs)
  have hkin : f.Kin g := hfits.inbox g (hg ▸ List.mem_cons_self)
  have hout := s.stage.call_kin now g w
  refine ⟨h.fits_set ⟨nofun, ?_, ?_, hkin.atEnd⟩, ?_⟩
  · exact fun o ho => hfits.inbox o (hg ▸ List.mem_cons_of_mem g ho)
  · exact fun o ho => hkin.trans (hout o ho)
  intro text ht
  subst ht
  rcases h.heard text rfl with hsettled | ⟨m, hm⟩
  · have hstill : (s.stage.call now g w).2 = w := s.stage.call_settled text now hkin hsettled
    exact .inl (hstill.symm ▸ hsettled)
  by_cases hcall : s.stage.isFilter = true ∧ g = .agentSpeech text
  · obtain ⟨hfilter, rfl⟩ := hcall
    exact .inl (Stage.call_filter hfilter text now w ▸ settled_filter text now w)
  · have hunheard := hm i s hs
    -- the speech itself comes out only of a stage before the first filter
    have hspoken : .agentSpeech text ∈ (s.stage.call now g w).1.2 → i < m := by
      intro ho
      rcases hout _ ho with rfl | hinert
      · have hle := hunheard.inbox (hg ▸ List.mem_cons_self)
        have hne : i ≠ m := fun he => hcall ⟨hunheard.first he, rfl⟩
        omega
      · exact absurd hinert Bool.false_ne_true
    rw [(Stage.call_plain now hkin hcall).still w]
    refine .inr ⟨m, unheard_set hm ⟨?_, ?_, ?_, hspoken⟩⟩
    · exact fun hlt => (s.stage.call_isFilter now g w).trans (hunheard.before hlt)
    · exact fun he => (s.stage.call_isFilter now g w).trans (hunheard.first he)
    · exact fun ho => hunheard.inbox (hg ▸ List.mem_cons_of_mem g ho)

theorem returns (h : Underway f now stations w) (hs : stations[i]? = some s) {atEnd : Bool}
    (ht : s.task = .delivering [] atEnd) :
    Underway f now (stations.set i { s with stage := (s.stage.close atEnd w).1, task := .waiting })
      (s.stage.close atEnd w).2 := by
  have hfits := h.fits s (List.mem_of_getElem? hs)
  have hend : atEnd = true → f = .endOfStream :=
    fun he => hfits.ending (by simp [ht, Task.atEnd, he])
  have hdone : ∀ stage, Station.Fits f { s with stage, task := .waiting } :=
    fun _ => ⟨by simp, hfits.inbox, by simp [Task.owed], by simp [Task.atEnd]⟩
  cases atEnd with
  | true =>
    obtain rfl := hend rfl
    exact ⟨h.fits_set (hdone _), by simp⟩
  | false =>
    exact h.set (hdone _) fun m hm =>
      ⟨(hm i s hs).before, (hm i s hs).first, (hm i s hs).inbox, by simp [Task.owed]⟩

theorem delivers (h : Underway f now stations w) (hs : stations[i]? = some s) {g : Frame}
    {gs : List Frame} {atEnd : Bool} (ht : s.task = .delivering (g :: gs) atEnd) :
    Underway f now (stations.set i { s with task := .delivering gs atEnd }) w := by
  have hfits := h.fits s (List.mem_of_getElem? hs)
  have howed : ∀ o ∈ gs, o ∈ s.task.owed := by
    rw [ht]
    exact fun o => List.mem_cons_of_mem g
  have hend : atEnd = true → s.task.atEnd = true := by
    rw [ht]
    exact id
  apply h.set
  · exact ⟨nofun, hfits.inbox, fun o ho => hfits.owed o (howed o ho),
      fun he => hfits.ending (hend he)⟩
  · exact fun m hm => ⟨(hm i s hs).before, (hm i s hs).first, (hm i s hs).inbox,
      fun ho => (hm i s hs).owed (howed f ho)⟩

theorem receives (h : Underway f now stations w) (hs : stations[i]? = some s) {g : Frame}
    (hg : g ∈ s.task.owed) {next : Station Stage} (hn : stations[i + 1]? = some next) :
    Underway f now (stations.set (i + 1) { next with inbox := next.inbox ++ [g] }) w := by
  have hfits := h.fits next (List.mem_of_getElem? hn)
  apply h.set
  · refine ⟨hfits.begun, ?_, hfits.owed, hfits.ending⟩
    intro o ho
    rcases List.mem_append.mp ho with ho | ho
    · exact hfits.inbox o ho
    · obtain rfl := List.mem_singleton.mp ho
      exact (h.fits s (List.mem_of_getElem? hs)).owed o hg
  · intro m hm
    have hunheard := hm (i + 1) next hn
    refine ⟨hunheard.before, hunheard.first, ?_, hunheard.owed⟩
    intro ho
    rcases List.mem_append.mp ho with ho | ho
    · exact hunheard.inbox ho
    · obtain rfl := List.mem_singleton.mp ho
      exact (hm i s hs).owed hg

end Underway

/-! ## What comes out in the end -/

namespace Run

variable {f : Frame} {r v : Run Stage Shared} {i : Nat} {s : Station Stage}

def outlook (r : Run Stage Shared) : List Stage × List (Nat × Frame) × Shared :=
  let done := finishAll r.time r.stations [] r.world
  (done.1.1, r.output ++ done.1.2.map (r.now, ·), done.2)

/-- A move neither changes what comes out in the end nor makes time pass. -/
structure Follows (f : Frame) (r v : Run Stage Shared) : Prop where
  underway : Underway f r.time v.stations v.world
  now : v.now = r.now
  outlook : v.outlook = r.outlook

theorem outlook_congr (hnow : v.now = r.now) (hout : v.output = r.output)
    (h : finishAll r.time v.stations [] v.world = finishAll r.time r.stations [] r.world) :
    v.outlook = r.outlook := by
  have htime : v.time = r.time := congrArg Instant.ofMillis hnow
  simp only [outlook, htime, hnow, hout, h]

theorem called_eq (s : Station Stage) (w : Shared) (now : Instant) (g : Frame)
    (gs : List Frame) (atEnd : Bool) :
    (∃ c, called s (Processor.process s.stage w s.conversation now g) gs atEnd =
      ⟨(s.stage.call now g w).1.1, c, gs, .delivering (s.stage.call now g w).1.2 atEnd⟩) ∧
    (Processor.process s.stage w s.conversation now g).world = (s.stage.call now g w).2 := by
  obtain ⟨c, hc⟩ := s.stage.process_heedless w s.conversation now g
  have hprocess : Processor.process s.stage w s.conversation now g =
      { s.stage.process w {} now g with conversation := c } := hc
  rw [hprocess]
  exact ⟨⟨c, rfl⟩, rfl⟩

theorem takes_follows (h : Underway f r.time r.stations r.world) (hs : r.stations[i]? = some s)
    {g : Frame} {gs : List Frame} (ht : s.task = .waiting) (hg : s.inbox = g :: gs) :
    Follows f r ({ r with world :=
          (Processor.process s.stage r.world s.conversation r.time g).world }.update i
        (called s (Processor.process s.stage r.world s.conversation r.time g) gs
          g.isEndOfStream)) := by
  obtain ⟨front, later, hsplit, _, hset⟩ := exists_split hs
  obtain ⟨⟨c, hcalled⟩, hworld⟩ := called_eq s r.world r.time g gs g.isEndOfStream
  rw [hcalled, hworld]
  refine ⟨h.takes hs hg c, rfl, ?_⟩
  have hswap := h.call_swaps hsplit (hg ▸ List.mem_cons_self)
  have hadvance := finishAll_advance (finish_takes ht hg c) hswap later
  refine outlook_congr (by rfl) (by rfl) ?_
  dsimp only [update]
  rw [hset, hsplit]
  exact hadvance.symm

theorem told_close (r : Run Stage Shared) (s : Station Stage) (atEnd : Bool) (task : Task) :
    told s (r.stopped s atEnd) task =
        { s with stage := (s.stage.close atEnd r.world).1, task } ∧
      (r.stopped s atEnd).world = (s.stage.close atEnd r.world).2 := by
  obtain ⟨stage, conversation, inbox, _⟩ := s
  cases atEnd with
  | false => exact ⟨rfl, rfl⟩
  | true => cases stage <;> exact ⟨rfl, rfl⟩

theorem returns_follows (h : Underway f r.time r.stations r.world) (hs : r.stations[i]? = some s)
    {atEnd : Bool} (ht : s.task = .delivering [] atEnd) :
    Follows f r ({ r with world := (r.stopped s atEnd).world }.update i
        (told s (r.stopped s atEnd) .waiting)) := by
  obtain ⟨front, later, hsplit, _, hset⟩ := exists_split hs
  obtain ⟨htold, hworld⟩ := told_close r s atEnd .waiting
  rw [htold, hworld]
  refine ⟨h.returns hs ht, rfl, ?_⟩
  have hfits := h.fits s (List.mem_of_getElem? hs)
  have hend : atEnd = true → f = .endOfStream := fun he =>
    hfits.ending (by simp [ht, Task.atEnd, he])
  have hswap := h.close_swaps hsplit hend
  have hadvance := finishAll_advance (finish_returns ht) hswap later
  refine outlook_congr (by rfl) (by rfl) ?_
  dsimp only [update]
  rw [hset, hsplit]
  exact hadvance.symm

theorem hands_follows (h : Underway f r.time r.stations r.world) (hs : r.stations[i]? = some s)
    {g : Frame} {gs : List Frame} {atEnd : Bool} (ht : s.task = .delivering (g :: gs) atEnd)
    {next : Station Stage} (hn : r.stations[i + 1]? = some next) :
    Follows f r ((r.update (i + 1) { next with inbox := next.inbox ++ [g] }).update i
        { s with task := .delivering gs atEnd }) := by
  have howed : g ∈ s.task.owed := by
    rw [ht]
    exact List.mem_cons_self
  have hkept : (r.stations.set (i + 1) { next with inbox := next.inbox ++ [g] })[i]? = some s := by
    rw [List.getElem?_set_ne (Nat.succ_ne_self i)]
    exact hs
  refine ⟨(h.receives hs howed hn).delivers hkept ht, rfl, ?_⟩
  obtain ⟨front, rest, hsplit, hlen, _⟩ := exists_split hs
  obtain ⟨later, rfl⟩ : ∃ later, rest = next :: later := by
    rw [hsplit, List.getElem?_append_right (by omega), ← hlen, Nat.add_sub_cancel_left] at hn
    cases rest with
    | nil => cases hn
    | cons t later => exact ⟨later, by rw [Option.some.inj hn]⟩
  refine outlook_congr (by rfl) (by rfl) ?_
  dsimp only [update]
  have hset : ∀ t u, ((front ++ s :: next :: later).set (front.length + 1) t).set front.length u =
      front ++ u :: t :: later := by simp
  rw [hsplit, ← hlen, hset]
  exact (congrFun (finishAll_hands ht front next later []) r.world).symm

theorem emits_follows (h : Underway f r.time r.stations r.world) (hs : r.stations[i]? = some s)
    {g : Frame} {gs : List Frame} {atEnd : Bool} (ht : s.task = .delivering (g :: gs) atEnd)
    (hn : r.stations[i + 1]? = none) :
    Follows f r ({ r with output := r.output ++ [(r.now, g)], reader := r.reader.offered }.update i
        { s with task := .delivering gs atEnd }) := by
  refine ⟨h.delivers hs ht, rfl, ?_⟩
  obtain ⟨front, rest, hsplit, hlen, hset⟩ := exists_split hs
  obtain rfl : rest = [] := by
    have hle := List.getElem?_eq_none_iff.mp hn
    rw [hsplit, List.length_append, List.length_cons] at hle
    exact List.length_eq_zero_iff.mp (by omega)
  have hfinish : finishAll r.time (front ++ [s]) [] = _ := finishAll_emits ht front []
  have hemits := congrFun hfinish r.world
  simp only [bind_apply, pure_apply] at hemits
  unfold outlook
  dsimp only [update]
  rw [hset, hsplit, hemits, List.append_assoc]
  rfl

theorem moves_follows {goesOn : Bool} (h : Underway f r.time r.stations r.world)
    (hflowing : r.Flowing) (hquiet : r.Quiet r.now) (hs : r.stations[i]? = some s)
    (hm : Moves r i s v goesOn) : Follows f r v := by
  have hmem := List.mem_of_getElem? hs
  cases hm with
  | stays => exact ⟨h, rfl, rfl⟩
  | sleeps => exact ⟨h, rfl, rfl⟩
  | begins ht => exact absurd ht (h.fits s hmem).begun
  | takes ht hf =>
    have hfollows := takes_follows h hs ht hf
    exact ⟨hfollows.underway, rfl, hfollows.outlook⟩
  | expires ht hf he hd => exact absurd hd (hquiet.not_due hmem)
  | hands ht hn =>
    have hfollows := hands_follows h hs ht hn
    exact ⟨hfollows.underway, rfl, hfollows.outlook⟩
  | emits ht hn => exact emits_follows h hs ht hn
  | returns ht => exact returns_follows h hs ht
  | halts hends => exact (hflowing.never_halts hs hends).elim

theorem step_follows {r' : Run Stage Shared} (h : Underway f r.time r.stations r.world)
    (hflowing : r.Flowing) (hquiet : r.Quiet r.now) (hstep : r.step = some r') :
    Follows f r r' := by
  obtain ⟨i, rest, hr, ⟨hn, rfl⟩ | ⟨s, v, goesOn, hs, hm, rfl⟩⟩ := step_cases hstep
  · exact ⟨h, rfl, rfl⟩
  · have hfollows := moves_follows (r := r.hushed i) h (hflowing.hushed i) hquiet hs hm
    cases goesOn <;> exact ⟨hfollows.underway, hfollows.now, hfollows.outlook⟩

theorem settle_follows (h : Underway f r.time r.stations r.world) (hflowing : r.Flowing)
    (hquiet : ∀ v ∈ r.course, v.Quiet v.now) : Follows f r r.settle := by
  suffices hboth : r.settle.Flowing ∧ Follows f r r.settle from hboth.2
  apply settle_keeps_quietly (P := fun v => v.Flowing ∧ Follows f r v) _ hquiet
    ⟨hflowing, h, rfl, rfl⟩
  rintro v v' hv ⟨hf, hunderway, hnow, houtlook⟩ hstep
  have htime : v.time = r.time := congrArg Instant.ofMillis hnow
  rw [← htime] at hunderway
  have hnext := step_follows hunderway hf hv hstep
  refine ⟨hf.step hstep, ?_, hnext.now.trans hnow, hnext.outlook.trans houtlook⟩
  rw [← htime]
  exact hnext.underway

theorem outlook_rest (h : ∀ s ∈ r.stations, AtRest s) :
    r.outlook = (r.stations.map (·.stage), r.output, r.world) := by
  simp only [outlook, finishAll_rest h, List.map_nil, List.append_nil]

theorem rest_underway {stations : List (Station Stage)} (h : ∀ s ∈ stations, AtRest s) (f : Frame)
    (now : Instant) (w : Shared) : Underway f now stations w := by
  refine ⟨?_, fun text _ => .inr ⟨stations.findIdx (·.stage.isFilter), ?_⟩⟩
  · intro s hs
    obtain ⟨ht, hi⟩ := h s hs
    exact ⟨by simp [ht], by simp [hi], by simp [ht, Task.owed], by simp [ht, Task.atEnd]⟩
  · intro i s hs
    obtain ⟨ht, hi⟩ := h s (List.mem_of_getElem? hs)
    obtain ⟨hlt, rfl⟩ := List.getElem?_eq_some_iff.mp hs
    refine ⟨?_, ?_, by simp [hi], by simp [ht, Task.owed]⟩
    · intro hbefore
      simpa using List.not_of_lt_findIdx hbefore
    · rintro rfl
      exact List.findIdx_getElem (p := fun s : Station Stage => s.stage.isFilter)

theorem posted_underway (hrest : ∀ s ∈ r.stations, AtRest s) (hs : r.stations[0]? = some s) :
    Underway f (r.posted f).time (r.posted f).stations (r.posted f).world := by
  obtain ⟨woken, hposted⟩ := posted_eq hs f
  have hbefore := rest_underway hrest f r.time r.world
  have hfits := hbefore.fits s (List.mem_of_getElem? hs)
  rw [hposted]
  apply hbefore.set
  · refine ⟨hfits.begun, ?_, hfits.owed, hfits.ending⟩
    intro g hg
    rcases List.mem_append.mp hg with hg | hg
    · exact hfits.inbox g hg
    · exact .inl (List.mem_singleton.mp hg)
  · exact fun m hm => ⟨(hm 0 s hs).before, (hm 0 s hs).first, fun _ => Nat.zero_le m,
      (hm 0 s hs).owed⟩

theorem posted_outlook (hrest : ∀ s ∈ r.stations, AtRest s) (hs : r.stations[0]? = some s)
    {c : Conversation} {out : List Frame}
    (hout : (pass (r.stations.map (·.stage)) r.world c r.time [f]).result = .ok out) :
    let done := pass (r.stations.map (·.stage)) r.world c r.time [f]
    (r.posted f).outlook = (done.stages, r.output ++ out.map (r.now, ·), done.world) := by
  intro done
  obtain ⟨woken, hposted⟩ := posted_eq hs f
  obtain ⟨later, hlater⟩ : ∃ later, r.stations = s :: later := by
    cases hl : r.stations with
    | nil => simp [hl] at hs
    | cons t later => exact ⟨later, by simpa [hl] using hs⟩
  have hfinish : finishAll r.time ({ s with inbox := s.inbox ++ [f] } :: later) [] r.world =
      finishAll r.time r.stations [f] r.world := by
    simp only [hlater, finishAll, Station.finish, List.append_nil]
  rw [finishAll_pass hrest hout] at hfinish
  rw [hposted]
  have hset : ((r.update 0 { s with inbox := s.inbox ++ [f] }).roused woken).stations =
      { s with inbox := s.inbox ++ [f] } :: later := by
    simp [roused, update, hlater]
  unfold outlook
  rw [hset]
  exact congrArg (fun fin => (fin.1.1, r.output ++ fin.1.2.map (r.now, ·), fin.2)) hfinish

/-- A frame that is sent to a run at rest makes a passage. -/
theorem Rests.send {stages : List Stage} {w : Shared} (h : r.Rests stages w)
    (hstages : stages ≠ []) (hquiet : ∀ v ∈ (r.post f).course, v.Quiet v.now)
    {c : Conversation} {out : List Frame} (hout : (pass stages w c r.time [f]).result = .ok out) :
    let done := pass stages w c r.time [f]
    (r.send f).Rests done.stages done.world ∧ (r.send f).now = r.now ∧
      (r.send f).output = r.output ++ out.map (r.now, ·) := by
  have hrest := h.atRest
  have hsteady := h.toSteady
  obtain ⟨_, rfl, rfl⟩ := h
  have hstations : r.stations ≠ [] := fun he => hstages (by simp [he])
  obtain ⟨s, hs⟩ : ∃ s, r.stations[0]? = some s :=
    ⟨_, List.getElem?_eq_getElem (List.length_pos_iff.mpr hstations)⟩
  rw [hsteady.post_eq hstations] at hquiet
  have hsend : r.send f = (r.posted f).settle := hsteady.send_eq hstations f
  have hfollows := settle_follows (posted_underway hrest hs) (hsteady.flowing.posted f) hquiet
  rw [← hsend] at hfollows
  have hsent : (r.send f).Steady := hsteady.send f
  have hdone := (outlook_rest hsent.atRest).symm.trans
    (hfollows.outlook.trans (posted_outlook hrest hs hout))
  obtain ⟨hstages', houtput, hworld⟩ := by simpa only [Prod.mk.injEq] using hdone
  exact ⟨⟨hsent, hstages', hworld⟩, send_now r f, houtput⟩

end Run

end BargeIn.Pipeline
