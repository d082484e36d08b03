import BargeIn.Proofs.Lexicon.Listing

/-!
# Building a vocabulary

Two lists make a vocabulary exactly if no phrase is on both. It then knows the phrases of the two
lists and no others, each filler under the language it is listed under first, and its two bounds
are as large as the phrases need and no larger.
-/

set_option autoImplicit false

namespace BargeIn.Vocabulary

open Text

/-! ## The bounds -/

def longest (entries : List String) : Nat :=
  entries.foldl (fun n entry => max n (splitWords entry).length) 0

theorem longest_snoc (entries : List String) (entry : String) :
    longest (entries ++ [entry]) = max (longest entries) (splitWords entry).length :=
  List.foldl_append

theorem phraseLength_entry {word entry : String} (h : normalizeEntry word = some entry) :
    phraseLength entry = (splitWords entry).length := by
  rw [splitWords_entry h]
  obtain ⟨hn, rfl⟩ := (normalizeEntry_eq_some_iff word entry).mp h
  exact joinWords_count hn (tokenize_isWord word)

/-- Both bounds are reached. -/
structure Measured (v : Vocabulary) : Prop where
  fillers : v.longestFiller = longest (v.fillers.map (·.1))
  stops : v.longestStop = longest v.stops

theorem listFiller_measured {v : Vocabulary} (hv : v.Measured)
    (listed : Option Language × String) : (v.listFiller listed).Measured := by
  unfold listFiller
  split
  case h_2 => exact hv
  case h_1 entry hentry =>
    refine ⟨?_, ?_⟩
    · unfold insertFiller
      split
      · exact hv.fillers
      · rw [List.map_append, List.map_singleton, longest_snoc, ← hv.fillers,
          phraseLength_entry hentry]
    · rw [insertFiller_stops, insertFiller_longestStop]
      exact hv.stops

theorem listStop_measured {v : Vocabulary} (hv : v.Measured) (listed : String) :
    (v.listStop listed).Measured := by
  unfold listStop
  split
  case h_2 => exact hv
  case h_1 entry hentry =>
    unfold insertStop
    split
    · exact hv
    · refine ⟨hv.fillers, ?_⟩
      rw [longest_snoc, ← hv.stops, phraseLength_entry hentry]

theorem collect_measured (fillers : List (Option Language × String)) (stops : List String) :
    (collect fillers stops).Measured :=
  List.foldlRecOn stops listStop
    (List.foldlRecOn fillers listFiller ⟨rfl, rfl⟩ fun _ hv listed _ =>
      listFiller_measured hv listed)
    fun _ hv listed _ => listStop_measured hv listed

/-! ## Phrases on both lists -/

theorem named_both {fillers stops : List String} :
    (∃ entry, Named fillers entry ∧ Named stops entry) ↔
      ∃ word ∈ fillers, ∃ stop ∈ stops, tokenize word ≠ [] ∧ tokenize word = tokenize stop := by
  constructor
  · rintro ⟨entry, ⟨word, hword, hentry⟩, ⟨stop, hstop, hentry'⟩⟩
    have hn := ((normalizeEntry_eq_some_iff word entry).mp hentry).1
    exact ⟨word, hword, stop, hstop, hn, (splitWords_entry hentry).symm.trans
      (splitWords_entry hentry')⟩
  · rintro ⟨word, hword, stop, hstop, hn, hsame⟩
    refine ⟨joinWords (tokenize word), ⟨word, hword, ?_⟩, ⟨stop, hstop, ?_⟩⟩
    · exact (normalizeEntry_eq_some_iff _ _).mpr ⟨hn, rfl⟩
    · exact (normalizeEntry_eq_some_iff _ _).mpr ⟨hsame ▸ hn, congrArg joinWords hsame.symm⟩

theorem build_eq_ok_iff (fillers : List (Option Language × String)) (stops : List String) :
    (∃ v, build fillers stops = .ok v) ↔
      ¬ ∃ entry, Named (fillers.map (·.2)) entry ∧ Named stops entry := by
  rcases build_cases fillers stops with ⟨e, hfiller, hstop, hbuild⟩ | ⟨hnone, hbuild⟩ <;>
    rw [hbuild]
  · refine ⟨nofun, fun hdisjoint => absurd ⟨e, ?_, ?_⟩ hdisjoint⟩
    · exact (isFiller_collect fillers stops e).mp hfiller
    · exact (isStop_collect fillers stops e).mp hstop
  · refine ⟨fun _ => ?_, fun _ => ⟨_, rfl⟩⟩
    rintro ⟨e, hfiller, hstop⟩
    have hoff := hnone e ((isFiller_collect fillers stops e).mpr hfiller)
    rw [(isStop_collect fillers stops e).mpr hstop] at hoff
    cases hoff

theorem build_error_named {fillers : List (Option Language × String)} {stops : List String}
    {ambiguity : Ambiguity} (h : build fillers stops = .error ambiguity) :
    Named (fillers.map (·.2)) ambiguity.entry ∧ Named stops ambiguity.entry := by
  rcases build_cases fillers stops with ⟨e, hfiller, hstop, hbuild⟩ | ⟨-, hbuild⟩ <;>
    rw [hbuild] at h
  · obtain rfl := Except.error.inj h
    exact ⟨(isFiller_collect fillers stops e).mp hfiller, (isStop_collect fillers stops e).mp hstop⟩
  · cases h

/-! ## The lists and what is made of them -/

theorem firstListed_first {before : List (Option Language × String)} {language : Option Language}
    {word entry : String} (hw : normalizeEntry word = some entry)
    (hb : ¬ Named (before.map (·.2)) entry) (later : List (Option Language × String)) :
    firstListed (before ++ (language, word) :: later) entry = some language := by
  rw [← firstListed_isSome, Bool.not_eq_true, Option.isSome_eq_false_iff,
    Option.isNone_iff_eq_none] at hb
  rw [firstListed_append, hb, Option.none_or]
  simp [firstListed, hw]

/-- Lists without a common phrase make a vocabulary of exactly their phrases, whatever their order;
others are refused for a phrase that is on both. -/
theorem disjoint_lists_built (fillers : List (Option Language × String)) (stops : List String) :
    ((∃ v, build fillers stops = .ok v) ↔
      ∀ word ∈ fillers.map (·.2), ∀ stop ∈ stops,
        tokenize word ≠ [] → tokenize word ≠ tokenize stop) ∧
    (∀ v, build fillers stops = .ok v →
      v.Distinct ∧
      (∀ entry, v.isFiller entry = true ↔ Named (fillers.map (·.2)) entry) ∧
      (∀ entry, v.isStop entry = true ↔ Named stops entry) ∧
      (∀ before language word later entry, fillers = before ++ (language, word) :: later →
        normalizeEntry word = some entry → ¬ Named (before.map (·.2)) entry →
        v.fillerLanguage entry = language) ∧
      v.longestFiller = longest (v.fillers.map (·.1)) ∧ v.longestStop = longest v.stops) ∧
    (∀ ambiguity, build fillers stops = .error ambiguity →
      Named (fillers.map (·.2)) ambiguity.entry ∧ Named stops ambiguity.entry) ∧
    ∀ fillers' stops', fillers'.Perm fillers → stops'.Perm stops →
      ((∃ v, build fillers' stops' = .ok v) ↔ ∃ v, build fillers stops = .ok v) ∧
      ∀ v v', build fillers stops = .ok v → build fillers' stops' = .ok v' →
        (∀ entry, v'.isFiller entry = v.isFiller entry) ∧
        ∀ entry, v'.isStop entry = v.isStop entry := by
  refine ⟨?_, ?_, fun ambiguity => build_error_named, ?_⟩
  · rw [build_eq_ok_iff, named_both]
    push Not
    rfl
  · intro v hv
    obtain rfl := build_eq_collect hv
    have hmeasured := collect_measured fillers stops
    refine ⟨collect_distinct fillers stops, isFiller_collect fillers stops,
      isStop_collect fillers stops, ?_, hmeasured.fillers, hmeasured.stops⟩
    rintro before language word later entry rfl hword hbefore
    rw [fillerLanguage, lookup_collect, firstListed_first hword hbefore]
    rfl
  · intro fillers' stops' hfillers hstops
    have hwords : ∀ entry, Named (fillers'.map (·.2)) entry ↔ Named (fillers.map (·.2)) entry :=
      named_congr fun _ => (hfillers.map (·.2)).mem_iff
    have hstopWords : ∀ entry, Named stops' entry ↔ Named stops entry :=
      named_congr fun _ => hstops.mem_iff
    constructor
    · simp only [build_eq_ok_iff, hwords, hstopWords]
    · intro v v' hv hv'
      obtain rfl := build_eq_collect hv
      obtain rfl := build_eq_collect hv'
      refine ⟨fun entry => ?_, fun entry => ?_⟩
      · rw [Bool.eq_iff_iff, isFiller_collect, isFiller_collect, hwords]
      · rw [Bool.eq_iff_iff, isStop_collect, isStop_collect, hstopWords]

/-- A filler that is listed in two spellings and under two languages, a blank on either list, and a
phrase that would be refused on the other. -/
theorem disjoint_lists_built_spellings :
    let fillers : List (Option Language × String) := [(none, "..."),
      (some .hindi, "Theek  hai!"), (some .english, "theek hai"), (some .english, "Um")]
    let stops := ["Hold on, please", "?", "STOP", "stop."]
    let v : Vocabulary :=
      ⟨[("theek hai", some .hindi), ("um", some .english)], ["hold on please", "stop"], 2, 3⟩
    build fillers stops = .ok v ∧ v.fillerLanguage "theek hai" = some .hindi ∧
      v.longestStop = longest v.stops ∧
      (∃ v', build fillers.reverse stops = .ok v' ∧ v'.isFiller "um" = v.isFiller "um") ∧
      (¬ ∃ v', build fillers ("UM?" :: stops) = .ok v') ∧
      build fillers ("UM?" :: stops) = .error ⟨"um"⟩ ∧ Named ("UM?" :: stops) "um" := by
  intro fillers stops v
  have hv : build fillers stops = .ok v := by decide +kernel
  have hrefused : build fillers ("UM?" :: stops) = .error ⟨"um"⟩ := by decide +kernel
  obtain ⟨-, hbuilt, -, hperm⟩ := disjoint_lists_built fillers stops
  obtain ⟨-, -, -, hlanguage, -, hstop⟩ := hbuilt v hv
  obtain ⟨hagain, hsame⟩ := hperm _ stops (List.reverse_perm fillers) (.refl stops)
  obtain ⟨v', hv'⟩ := hagain.mpr ⟨v, hv⟩
  obtain ⟨haccepts, -, hambiguity, -⟩ := disjoint_lists_built fillers ("UM?" :: stops)
  refine ⟨hv, ?_, hstop, ⟨v', hv', (hsame v v' hv hv').1 "um"⟩, ?_, hrefused,
    (hambiguity ⟨"um"⟩ hrefused).2⟩
  · exact hlanguage [(none, "...")] (some .hindi) "Theek  hai!" _ "theek hai" rfl
      (by decide +kernel) (by decide +kernel)
  · intro hbuilds
    exact haccepts.mp hbuilds "Um" (by decide) "UM?" (by decide) (by decide +kernel)
      (by decide +kernel)

end BargeIn.Vocabulary
