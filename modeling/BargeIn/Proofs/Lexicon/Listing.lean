import BargeIn.Proofs.Lexicon.Classification
import BargeIn.Proofs.Lexicon.Learning

/-!
# What a vocabulary is built from

Of the lists that a vocabulary is built from it only matters under which language each phrase is
listed first, and which stop phrases are listed at all. Lists that agree on this are refused
together or make vocabularies that nobody can tell apart.
-/

set_option autoImplicit false

namespace BargeIn

open Text

namespace Vocabulary

/-- The language under which a phrase is first listed, if it is listed. -/
def firstListed (listed : List (Option Language × String)) (entry : String) :
    Option (Option Language) :=
  listed.findSome? fun (language, word) =>
    if normalizeEntry word = some entry then some language else none

theorem firstListed_append (listed later : List (Option Language × String)) (entry : String) :
    firstListed (listed ++ later) entry =
      (firstListed listed entry).or (firstListed later entry) :=
  List.findSome?_append

theorem firstListed_flatMap {α : Type} {f g : α → List (Option Language × String)}
    {entry : String} (h : ∀ a, firstListed (f a) entry = firstListed (g a) entry) (as : List α) :
    firstListed (as.flatMap f) entry = firstListed (as.flatMap g) entry := by
  induction as with
  | nil => rfl
  | cons a as ih =>
    rw [List.flatMap_cons, List.flatMap_cons, firstListed_append, firstListed_append, h, ih]

theorem firstListed_tagged {words words' : List String} {entry : String}
    (h : Named words entry ↔ Named words' entry) (language : Option Language) :
    firstListed (words.map (language, ·)) entry = firstListed (words'.map (language, ·)) entry := by
  have hfirst : ∀ words : List String, firstListed (words.map (language, ·)) entry =
      if words.any (normalizeEntry · == some entry) then some language else none := by
    intro words
    induction words with
    | nil => rfl
    | cons word words ih =>
      rw [List.map_cons, ← List.singleton_append, firstListed_append, ih, List.any_cons]
      by_cases hw : normalizeEntry word = some entry <;> simp [firstListed, hw]
  have hany : words.any (normalizeEntry · == some entry) =
      words'.any (normalizeEntry · == some entry) := by
    rw [Bool.eq_iff_iff, List.any_eq_true, List.any_eq_true]
    simpa [Named] using h
  rw [hfirst, hfirst, hany]

theorem firstListed_isSome (listed : List (Option Language × String)) (entry : String) :
    (firstListed listed entry).isSome = true ↔ Named (listed.map (·.2)) entry := by
  rw [firstListed, List.isSome_findSome?, List.any_eq_true]
  simp only [Named, List.mem_map, exists_exists_and_eq_and, Option.isSome_ite]

/-! ## Fillers as they are listed -/

theorem isFiller_lookup (v : Vocabulary) (entry : String) :
    v.isFiller entry = (v.fillers.lookup entry).isSome := by
  unfold isFiller
  induction v.fillers with
  | nil => rfl
  | cons filler fillers ih =>
    rw [List.any_cons, List.lookup_cons, ih, Bool.beq_comm]
    cases entry == filler.1 <;> rfl

theorem lookup_insertFiller (v : Vocabulary) (entry : String) (language : Option Language)
    (e : String) : (v.insertFiller entry language).1.fillers.lookup e =
      (v.fillers.lookup e).or (if entry = e then some language else none) := by
  unfold insertFiller
  split
  case isTrue h =>
    by_cases he : entry = e
    · subst he
      rw [isFiller_lookup, Option.isSome_iff_exists] at h
      obtain ⟨kept, hkept⟩ := h
      simp [hkept]
    · simp [he]
  case isFalse =>
    rw [List.lookup_append, List.lookup_cons, List.lookup_nil, Bool.beq_comm]
    by_cases he : entry = e
    · simp [he]
    · simp [he, beq_eq_false_iff_ne.mpr he]

theorem lookup_listFiller (v : Vocabulary) (listed : Option Language × String) (e : String) :
    (v.listFiller listed).fillers.lookup e =
      (v.fillers.lookup e).or (firstListed [listed] e) := by
  unfold listFiller
  split
  case h_1 entry h => simp [lookup_insertFiller, firstListed, h]
  case h_2 h => simp [firstListed, h]

theorem lookup_foldl_listFiller (v : Vocabulary) (listed : List (Option Language × String))
    (e : String) : (listed.foldl listFiller v).fillers.lookup e =
      (v.fillers.lookup e).or (firstListed listed e) := by
  induction listed generalizing v with
  | nil => simp [firstListed]
  | cons first later ih =>
    have happend : firstListed (first :: later) e =
        (firstListed [first] e).or (firstListed later e) := firstListed_append [first] later e
    rw [List.foldl_cons, ih, lookup_listFiller, happend, Option.or_assoc]

theorem listStop_fillers (v : Vocabulary) (listed : String) :
    (v.listStop listed).fillers = v.fillers := by
  unfold listStop insertStop
  split
  · split <;> rfl
  · rfl

theorem lookup_collect (fillers : List (Option Language × String)) (stops : List String)
    (e : String) : (collect fillers stops).fillers.lookup e = firstListed fillers e := by
  have hstops : (collect fillers stops).fillers = (fillers.foldl listFiller empty).fillers :=
    List.foldlRecOn (motive := fun v => v.fillers = (fillers.foldl listFiller empty).fillers)
      stops listStop rfl fun v hv listed _ => (listStop_fillers v listed).trans hv
  rw [hstops, lookup_foldl_listFiller]
  rfl

theorem isFiller_collect (fillers : List (Option Language × String)) (stops : List String)
    (e : String) : (collect fillers stops).isFiller e = true ↔ Named (fillers.map (·.2)) e := by
  rw [isFiller_lookup, lookup_collect, firstListed_isSome]

theorem listFiller_stops (v : Vocabulary) (listed : Option Language × String) :
    (v.listFiller listed).stops = v.stops := by
  unfold listFiller
  split
  · exact insertFiller_stops v _ _
  · rfl

theorem isStop_collect (fillers : List (Option Language × String)) (stops : List String)
    (e : String) : (collect fillers stops).isStop e = true ↔ Named stops e := by
  have hstops : (fillers.foldl listFiller empty).stops = [] :=
    List.foldlRecOn (motive := fun v => v.stops = []) fillers listFiller rfl
      fun v hv listed _ => (listFiller_stops v listed).trans hv
  have hnone : (fillers.foldl listFiller empty).isStop e = false := by simp [isStop, hstops]
  rw [collect, isStop_foldl_listStop, hnone, Bool.false_or, List.any_eq_true]
  simp [Named]

/-! ## No phrase is kept twice -/

structure Distinct (v : Vocabulary) : Prop where
  fillers : (v.fillers.map (·.1)).Nodup
  stops : v.stops.Nodup

theorem insertFiller_distinct {v : Vocabulary} (hv : Distinct v) (entry : String)
    (language : Option Language) : Distinct (v.insertFiller entry language).1 := by
  by_cases hk : v.isFiller entry = true
  · rwa [insertFiller, if_pos hk]
  · refine ⟨?_, (insertFiller_stops v entry language).symm ▸ hv.stops⟩
    rw [isFiller_iff] at hk
    simpa [insertFiller, isFiller_iff, hk] using hv.fillers.concat hk

theorem insertStop_distinct {v : Vocabulary} (hv : Distinct v) (entry : String) :
    Distinct (v.insertStop entry) := by
  by_cases hk : v.isStop entry = true
  · rwa [insertStop, if_pos hk]
  · have hnew : entry ∉ v.stops := by simpa [isStop] using hk
    rw [insertStop, if_neg hk]
    exact ⟨hv.fillers, by simpa using hv.stops.concat hnew⟩

theorem collect_distinct (fillers : List (Option Language × String)) (stops : List String) :
    Distinct (collect fillers stops) := by
  have hfillers : Distinct (fillers.foldl listFiller empty) := by
    refine List.foldlRecOn fillers listFiller ⟨.nil, .nil⟩ fun v hv listed _ => ?_
    unfold listFiller
    split
    · exact insertFiller_distinct hv _ _
    · exact hv
  refine List.foldlRecOn stops listStop hfillers fun v hv listed _ => ?_
  unfold listStop
  split
  · exact insertStop_distinct hv _
  · exact hv

/-! ## Order makes no difference -/

theorem sortEntries_eq {entries entries' : List String} (h : entries.Nodup) (h' : entries'.Nodup)
    (hsame : ∀ e, e ∈ entries ↔ e ∈ entries') : sortEntries entries = sortEntries entries' := by
  have hsorted : ∀ entries, (sortEntries entries).Pairwise fun a b => (!decide (b < a)) = true := by
    intro entries
    apply List.pairwise_mergeSort
    · intro a b c hab hbc
      simp only [Bool.not_eq_true', decide_eq_false_iff_not, String.not_lt] at hab hbc ⊢
      exact String.le_trans hab hbc
    · intro a b
      simp only [Bool.or_eq_true, Bool.not_eq_true', decide_eq_false_iff_not, String.not_lt]
      exact String.le_total a b
  have hperm : (sortEntries entries).Perm (sortEntries entries') :=
    (List.mergeSort_perm _ _).trans
      (((List.perm_ext_iff_of_nodup h h').mpr hsame).trans (List.mergeSort_perm _ _).symm)
  refine hperm.eq_of_pairwise ?_ (hsorted entries) (hsorted entries')
  intro a b _ _ hab hba
  simp only [Bool.not_eq_true', decide_eq_false_iff_not, String.not_lt] at hab hba
  exact String.le_antisymm hab hba

/-- The search for a phrase does not depend on the bound, as long as it holds back none. -/
theorem longestMatch_bounds {known : String → Bool} {bound bound' : Nat}
    (hb : Bounded known bound) (hb' : Bounded known bound') (tokens : List String) :
    longestMatch known tokens bound = longestMatch known tokens bound' := by
  apply Option.ext
  intro n
  rw [longestMatch_eq_some_iff hb, longestMatch_eq_some_iff hb']

structure Alike (v w : Vocabulary) : Prop where
  fillers : ∀ e, v.fillers.lookup e = w.fillers.lookup e
  stops : ∀ e, v.isStop e = w.isStop e

namespace Alike

variable {v w : Vocabulary}

theorem isFiller (h : v.Alike w) : v.isFiller = w.isFiller := by
  funext e
  rw [isFiller_lookup, isFiller_lookup, h.fillers]

theorem fillerLanguage (h : v.Alike w) (e : String) : v.fillerLanguage e = w.fillerLanguage e :=
  congrArg Option.join (h.fillers e)

theorem fillerEntries (h : v.Alike w) (hv : v.Distinct) (hw : w.Distinct) :
    v.fillerEntries = w.fillerEntries := by
  apply sortEntries_eq hv.fillers hw.fillers
  intro e
  rw [← isFiller_iff, ← isFiller_iff, h.isFiller]

theorem stopEntries (h : v.Alike w) (hv : v.Distinct) (hw : w.Distinct) :
    v.stopEntries = w.stopEntries := by
  apply sortEntries_eq hv.stops hw.stops
  intro e
  have hstop : v.stops.contains e = w.stops.contains e := h.stops e
  rw [← List.contains_iff_mem, ← List.contains_iff_mem, hstop]

theorem matchFiller (h : v.Alike w) (hv : v.WellFormed) (hw : w.WellFormed)
    (tokens : List String) : v.matchFiller tokens = w.matchFiller tokens := by
  have hbounded := hv.fillersBounded
  rw [h.isFiller] at hbounded
  rw [Vocabulary.matchFiller, h.isFiller]
  exact longestMatch_bounds hbounded hw.fillersBounded tokens

theorem findStop (h : v.Alike w) (hv : v.WellFormed) (hw : w.WellFormed)
    (tokens : List String) : v.findStop tokens = w.findStop tokens :=
  findStop_congr hv hw (funext h.stops) tokens

theorem residualFrom (h : v.Alike w) (hv : v.WellFormed) (hw : w.WellFormed) (passed : Nat)
    (tokens : List String) : v.residualFrom passed tokens = w.residualFrom passed tokens := by
  induction tokens generalizing passed with
  | nil => cases passed <;> rfl
  | cons t ts ih =>
    cases passed with
    | succ passed => exact ih passed
    | zero =>
      rw [Vocabulary.residualFrom, Vocabulary.residualFrom, h.matchFiller hv hw]
      cases w.matchFiller (t :: ts) with
      | some n => exact ih (n - 1)
      | none => exact congrArg (t :: ·) (ih 0)

end Alike

theorem collect_alike {fillers fillers' : List (Option Language × String)}
    {stops stops' : List String} (hf : ∀ e, firstListed fillers e = firstListed fillers' e)
    (hs : ∀ e, Named stops e ↔ Named stops' e) :
    (collect fillers stops).Alike (collect fillers' stops') where
  fillers e := by rw [lookup_collect, lookup_collect, hf]
  stops e := by rw [Bool.eq_iff_iff, isStop_collect, isStop_collect, hs]

/-- Lists are refused if and only if some phrase is of both kinds. -/
theorem build_cases (fillers : List (Option Language × String)) (stops : List String) :
    let v := collect fillers stops
    (∃ e, v.isFiller e = true ∧ v.isStop e = true ∧ build fillers stops = .error ⟨e⟩) ∨
      (∀ e, v.isFiller e = true → v.isStop e = false) ∧ build fillers stops = .ok v := by
  intro v
  cases hfind : v.stops.find? v.isFiller with
  | some e =>
    left
    have hstop : v.isStop e = true := List.contains_iff_mem.mpr (List.mem_of_find?_eq_some hfind)
    refine ⟨e, List.find?_some hfind, hstop, ?_⟩
    simp only [build, v] at hfind ⊢
    rw [hfind]
  | none =>
    right
    have hbuild : build fillers stops = .ok v := by
      simp only [build, v] at hfind ⊢
      rw [hfind]
    exact ⟨build_disjoint hbuild, hbuild⟩

end Vocabulary

namespace Classifier

structure Agrees (a b : Classifier) : Prop where
  enabled : a.enabled = b.enabled
  fillers : a.vocabulary.fillerEntries = b.vocabulary.fillerEntries
  languages : ∀ entry, a.vocabulary.fillerLanguage entry = b.vocabulary.fillerLanguage entry
  stops : a.vocabulary.stopEntries = b.vocabulary.stopEntries
  classify : ∀ text, a.classify text = b.classify text

theorem agrees_collect {fillers fillers' : List (Option Language × String)}
    {stops stops' : List String}
    (h : (Vocabulary.collect fillers stops).Alike (Vocabulary.collect fillers' stops'))
    (enabled : Bool) :
    Agrees ⟨.collect fillers stops, enabled⟩ ⟨.collect fillers' stops', enabled⟩ := by
  have hd := Vocabulary.collect_distinct fillers stops
  have hd' := Vocabulary.collect_distinct fillers' stops'
  have hw := Vocabulary.collect_wellFormed fillers stops
  have hw' := Vocabulary.collect_wellFormed fillers' stops'
  refine ⟨rfl, h.fillerEntries hd hd', h.fillerLanguage, h.stopEntries hd hd', fun text => ?_⟩
  simp only [classify, classifyTokens, h.findStop hw hw', Vocabulary.residual,
    h.residualFrom hw hw']

inductive Interchangeable : Except Ambiguity Classifier → Except Ambiguity Classifier → Prop
  | refused (ambiguity other : Ambiguity) : Interchangeable (.error ambiguity) (.error other)
  | agree {a b : Classifier} (h : a.Agrees b) : Interchangeable (.ok a) (.ok b)

theorem build_interchangeable {fillers fillers' : List (Option Language × String)}
    {stops stops' : List String}
    (hf : ∀ e, Vocabulary.firstListed fillers e = Vocabulary.firstListed fillers' e)
    (hs : ∀ e, Vocabulary.Named stops e ↔ Vocabulary.Named stops' e) (enabled : Bool) :
    Interchangeable ((Vocabulary.build fillers stops).map (⟨·, enabled⟩))
      ((Vocabulary.build fillers' stops').map (⟨·, enabled⟩)) := by
  have halike := Vocabulary.collect_alike hf hs
  rcases Vocabulary.build_cases fillers stops with ⟨e, hfiller, hstop, hbuild⟩ | ⟨hnone, hbuild⟩ <;>
    rcases Vocabulary.build_cases fillers' stops' with
      ⟨e', hfiller', hstop', hbuild'⟩ | ⟨hnone', hbuild'⟩ <;> rw [hbuild, hbuild']
  · exact .refused ⟨e⟩ ⟨e'⟩
  · rw [halike.isFiller] at hfiller
    rw [halike.stops, hnone' e hfiller] at hstop
    cases hstop
  · rw [← halike.isFiller] at hfiller'
    rw [← halike.stops, hnone e' hfiller'] at hstop'
    cases hstop'
  · exact .agree (agrees_collect halike enabled)

end Classifier

end BargeIn
