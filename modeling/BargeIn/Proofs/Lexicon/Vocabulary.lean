import BargeIn.Proofs.Lexicon.Matching

/-!
# Vocabularies as they arise

A vocabulary is built from two lists and then only learns fillers. All along the two bounds are
no less than the length of any phrase, no phrase is empty, and the stop phrases are those it was
built with.
-/

set_option autoImplicit false

namespace BargeIn.Vocabulary

open Text

inductive Reachable : Vocabulary → Prop
  | built {fillers : List (Option Language × String)} {stops : List String} {v : Vocabulary}
      (h : build fillers stops = .ok v) : Reachable v
  | extended {v : Vocabulary} (words : List String) (h : Reachable v) :
      Reachable (v.addFillers words).1

/-- The bounds hold back no phrase, and no phrase is empty. -/
structure WellFormed (v : Vocabulary) : Prop where
  fillersBounded : Bounded v.isFiller v.longestFiller
  stopsBounded : Bounded v.isStop v.longestStop
  emptyFiller : v.isFiller "" = false
  emptyStop : v.isStop "" = false

theorem isFiller_insertFiller (v : Vocabulary) (entry : String) (language : Option Language)
    (e : String) : (v.insertFiller entry language).1.isFiller e = (v.isFiller e || entry == e) := by
  unfold insertFiller
  split
  case isTrue h =>
    by_cases he : entry = e
    · subst he
      simp [h]
    · simp [he]
  case isFalse => simp [isFiller]

@[simp] theorem insertFiller_stops (v : Vocabulary) (entry : String)
    (language : Option Language) : (v.insertFiller entry language).1.stops = v.stops := by
  unfold insertFiller
  split <;> rfl

@[simp] theorem insertFiller_longestStop (v : Vocabulary) (entry : String)
    (language : Option Language) :
    (v.insertFiller entry language).1.longestStop = v.longestStop := by
  unfold insertFiller
  split <;> rfl

theorem isStop_insertStop (v : Vocabulary) (entry e : String) :
    (v.insertStop entry).isStop e = (v.isStop e || entry == e) := by
  unfold insertStop
  split
  case isTrue h =>
    by_cases he : entry = e
    · subst he
      simp [h]
    · simp [he]
  case isFalse =>
    rw [Bool.beq_comm]
    by_cases he : e = entry <;> simp [isStop, he]

theorem insertStop_isFiller (v : Vocabulary) (entry e : String) :
    (v.insertStop entry).isFiller e = v.isFiller e := by
  unfold insertStop
  split <;> rfl

@[simp] theorem insertStop_longestFiller (v : Vocabulary) (entry : String) :
    (v.insertStop entry).longestFiller = v.longestFiller := by
  unfold insertStop
  split <;> rfl

theorem isStop_congr {v w : Vocabulary} (h : v.stops = w.stops) : v.isStop = w.isStop := by
  funext e
  simp [isStop, h]

theorem empty_wellFormed : WellFormed empty :=
  ⟨fun _ h => absurd h (by simp [isFiller, empty]), fun _ h => absurd h (by simp [isStop, empty]),
    rfl, rfl⟩

theorem Bounded.insert {known known' : String → Bool} {bound : Nat} {entry : String}
    (hb : Bounded known bound) (hk : ∀ e, known' e = (known e || entry == e)) :
    Bounded known' (max bound (phraseLength entry)) := by
  intro e he
  rw [hk, Bool.or_eq_true, beq_iff_eq] at he
  rcases he with he | rfl
  · exact Nat.le_trans (hb e he) (Nat.le_max_left _ _)
  · exact Nat.le_max_right _ _

theorem insertFiller_wellFormed (v : Vocabulary) (entry : String) (language : Option Language)
    (hn : entry ≠ "") (hv : WellFormed v) : WellFormed (v.insertFiller entry language).1 := by
  by_cases hk : v.isFiller entry = true
  · rwa [insertFiller, if_pos hk]
  · have hs := isStop_congr (insertFiller_stops v entry language)
    have hb := hv.fillersBounded.insert (isFiller_insertFiller v entry language)
    refine ⟨?_, ?_, ?_, ?_⟩
    · simpa [insertFiller, hk] using hb
    · rw [hs, insertFiller_longestStop]
      exact hv.stopsBounded
    · simp [isFiller_insertFiller, hv.emptyFiller, hn]
    · rw [hs]
      exact hv.emptyStop

theorem insertStop_wellFormed (v : Vocabulary) (entry : String) (hn : entry ≠ "")
    (hv : WellFormed v) : WellFormed (v.insertStop entry) := by
  by_cases hk : v.isStop entry = true
  · rwa [insertStop, if_pos hk]
  · have hf := funext (insertStop_isFiller v entry)
    have hb := hv.stopsBounded.insert (isStop_insertStop v entry)
    refine ⟨?_, ?_, ?_, ?_⟩
    · rw [hf, insertStop_longestFiller]
      exact hv.fillersBounded
    · simpa [insertStop, hk] using hb
    · rw [hf]
      exact hv.emptyFiller
    · simp [isStop_insertStop, hv.emptyStop, hn]

theorem listFiller_wellFormed (v : Vocabulary) (listed : Option Language × String)
    (hv : WellFormed v) : WellFormed (v.listFiller listed) := by
  unfold listFiller
  split
  case h_1 entry h =>
    exact insertFiller_wellFormed v entry _ (normalizeEntry_ne_empty _ entry h) hv
  case h_2 => exact hv

theorem listStop_wellFormed (v : Vocabulary) (listed : String) (hv : WellFormed v) :
    WellFormed (v.listStop listed) := by
  unfold listStop
  split
  case h_1 entry h => exact insertStop_wellFormed v entry (normalizeEntry_ne_empty _ entry h) hv
  case h_2 => exact hv

theorem collect_wellFormed (fillers : List (Option Language × String)) (stops : List String) :
    WellFormed (collect fillers stops) :=
  List.foldlRecOn stops listStop
    (List.foldlRecOn fillers listFiller empty_wellFormed
      fun v hv listed _ => listFiller_wellFormed v listed hv)
    fun v hv listed _ => listStop_wellFormed v listed hv

theorem addFillers_keeps {P : Vocabulary → Prop} {v : Vocabulary} (h : P v) (words : List String)
    (hinsert : ∀ w entry word, normalizeEntry word = some entry → P w →
      P (w.insertFiller entry none).1) : P (v.addFillers words).1 := by
  have hadded : P ((words.filterMap normalizeEntry).foldl addFiller (v, [])).1 := by
    refine List.foldlRecOn (motive := fun soFar => P soFar.1)
      (words.filterMap normalizeEntry) addFiller (b := (v, [])) h ?_
    rintro ⟨w, added⟩ hw entry hentry
    obtain ⟨word, _, hword⟩ := List.mem_filterMap.mp hentry
    simp only [addFiller]
    split
    · exact hw
    · exact hinsert w entry word hword hw
  unfold addFillers
  dsimp only
  split
  · exact h
  · split
    · exact h
    · exact hadded

theorem addFillers_wellFormed (v : Vocabulary) (words : List String) (hv : WellFormed v) :
    WellFormed (v.addFillers words).1 :=
  addFillers_keeps hv words fun w entry word hword hw =>
    insertFiller_wellFormed w entry none (normalizeEntry_ne_empty word entry hword) hw

theorem build_eq_collect {fillers : List (Option Language × String)} {stops : List String}
    {v : Vocabulary} (h : build fillers stops = .ok v) : v = collect fillers stops := by
  simp only [build] at h
  split at h
  · simp at h
  · exact (Except.ok.inj h).symm

theorem Reachable.wellFormed {v : Vocabulary} (h : Reachable v) : WellFormed v := by
  induction h with
  | built h =>
    rw [build_eq_collect h]
    exact collect_wellFormed _ _
  | extended words _ ih => exact addFillers_wellFormed _ words ih

theorem isStop_listStop (v : Vocabulary) (listed e : String) :
    (v.listStop listed).isStop e = (v.isStop e || normalizeEntry listed == some e) := by
  unfold listStop
  split
  case h_1 entry h => simp [isStop_insertStop, h]
  case h_2 h => simp [h]

theorem isStop_foldl_listStop (v : Vocabulary) (stops : List String) (e : String) :
    (stops.foldl listStop v).isStop e =
      (v.isStop e || stops.any (normalizeEntry · == some e)) := by
  induction stops generalizing v with
  | nil => simp
  | cons listed stops ih => simp [ih, isStop_listStop, Bool.or_assoc]

@[simp] theorem addFillers_stops (v : Vocabulary) (words : List String) :
    (v.addFillers words).1.stops = v.stops :=
  addFillers_keeps (P := fun w => w.stops = v.stops) rfl words fun w entry _ _ hw =>
    (insertFiller_stops w entry none).trans hw

theorem build_isStop {fillers : List (Option Language × String)} {stops : List String}
    {v : Vocabulary} (h : build fillers stops = .ok v) {stop entry : String} (hs : stop ∈ stops)
    (he : normalizeEntry stop = some entry) : v.isStop entry = true := by
  rw [build_eq_collect h, collect, isStop_foldl_listStop, Bool.or_eq_true, List.any_eq_true]
  exact Or.inr ⟨stop, hs, by simp [he]⟩

end BargeIn.Vocabulary
