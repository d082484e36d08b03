import BargeIn.Proofs.Text.Pieces
import BargeIn.Proofs.Text.Trimming
import BargeIn.Proofs.Text.Words
import BargeIn.Settings.Load

/-!
# Word lists

A list of words is read piece by piece. A word that has been read is stable: it has no comma, no
blank around it and no capital, so it is read again as it is, wherever it stands in a list and
whatever blanks are put before it. Hence reading a list that was put together from what has been
read gives the same words.
-/

set_option autoImplicit false

namespace BargeIn

open Text

/-- The word is read as it is wherever it is listed. -/
structure IsListed (word : String) : Prop where
  nonempty : word ≠ ""
  lacking : ',' ∉ word.toList
  unpadded : Unpadded word.toList
  small : lower word = word

def IsBlankText (s : String) : Prop :=
  ∀ c ∈ s.toList, isBlank c = true

instance (s : String) : Decidable (IsBlankText s) :=
  List.decidableBAll (isBlank · = true) s.toList

theorem reading_toList (piece : String) :
    (lower (trim piece)).toList = lowerChars (trimChars piece.toList) := by
  simp [lower, trim]

theorem reading_eq_empty_iff (piece : String) : lower (trim piece) = "" ↔ IsBlankText piece := by
  have htrim := trim_eq_empty_iff piece
  rw [List.all_eq_true] at htrim
  rw [IsBlankText, ← htrim, ← String.toList_eq_nil_iff, reading_toList, lowerChars,
    lowerFrom_eq_nil_iff, trim, String.ofList_eq_empty_iff]

theorem reading_isListed {piece : String} (hc : ',' ∉ piece.toList) (hb : ¬ IsBlankText piece) :
    IsListed (lower (trim piece)) := by
  refine ⟨mt (reading_eq_empty_iff piece).mp hb, ?_, ?_, ?_⟩
  · rw [reading_toList]
    intro h
    exact hc (trimChars_subset _ (comma_isLone.mem h))
  · rw [reading_toList]
    exact (trimChars_unpadded _).lower
  · rw [← String.toList_inj, lower, String.toList_ofList, reading_toList]
    exact lowerChars_small (lowerChars_isSmall _)

theorem parseWordList_readings {pieces : List String} {raw : String} (h : Pieces ',' pieces raw) :
    parseWordList raw = (pieces.map fun piece => lower (trim piece)).filter (! ·.isEmpty) := by
  rw [h.eq_splitOn]
  rfl

/-- A piece is read unless there is nothing in it. -/
theorem parseWordList_pieces {pieces : List String} {raw : String} (h : Pieces ',' pieces raw) :
    parseWordList raw =
      (pieces.filter (¬ IsBlankText ·)).map fun piece => lower (trim piece) := by
  have hkept : (! ·.isEmpty) ∘ (fun piece => lower (trim piece)) =
      fun piece => decide (¬ IsBlankText piece) := by
    funext piece
    rw [Function.comp_apply, Bool.eq_iff_iff, decide_eq_true_eq, ← reading_eq_empty_iff]
    simp
  rw [parseWordList_readings h, List.filter_map, hkept]

-- The last sigma of the first word is a final one, and the last word gets longer.
example : parseWordList " ΟΔΟΣ,\t, İ" = ["οδος", "i\u0307"] := by
  have hpieces : Pieces ',' [" ΟΔΟΣ", "\t", " İ"] " ΟΔΟΣ,\t, İ" :=
    ⟨by decide, by decide, by decide⟩
  rw [parseWordList_pieces hpieces]
  decide +kernel

theorem parseWordList_eq_nil_iff {pieces : List String} {raw : String} (h : Pieces ',' pieces raw) :
    parseWordList raw = [] ↔ ∀ piece ∈ pieces, IsBlankText piece := by
  simp [parseWordList_pieces h]

theorem parseWordList_isListed (raw : String) : ∀ word ∈ parseWordList raw, IsListed word := by
  have hpieces := splitOn_pieces ',' raw
  intro word hword
  rw [parseWordList_pieces hpieces] at hword
  obtain ⟨piece, hpiece, rfl⟩ := List.mem_map.mp hword
  rw [List.mem_filter, decide_eq_true_eq] at hpiece
  exact reading_isListed (hpieces.lacking piece hpiece.1) hpiece.2

section Padding

variable {pad : String} (hpad : IsBlankText pad) {word : String} (h : IsListed word)

include hpad h

theorem IsListed.reading : lower (trim (pad ++ word)) = word := by
  have htrim : trim (pad ++ word) = word := by
    rw [trim, String.toList_append, trimChars_padded hpad, trimChars_of_unpadded h.unpadded,
      String.ofList_toList]
  rw [htrim, h.small]

theorem IsListed.padded_lacking : ',' ∉ (pad ++ word).toList := by
  rw [String.toList_append, List.mem_append, not_or]
  refine ⟨fun hcomma => ?_, h.lacking⟩
  exact absurd (hpad ',' hcomma) (by decide)

end Padding

theorem intercalate_padded (pad word : String) (words : List String) :
    ("," ++ pad).intercalate (word :: words) =
      ",".intercalate (word :: words.map (pad ++ ·)) := by
  induction words generalizing word with
  | nil => simp
  | cons next words ih =>
    rw [String.intercalate_cons_cons, ih, List.map_cons, String.intercalate_cons_cons,
      String.intercalate_cons_append]
    simp [String.append_assoc]

theorem padded_pieces {pad : String} (hpad : IsBlankText pad) {word : String} {words : List String}
    (h : ∀ next ∈ word :: words, IsListed next) :
    Pieces ',' (word :: words.map (pad ++ ·)) (("," ++ pad).intercalate (word :: words)) := by
  obtain ⟨hfirst, hlater⟩ := List.forall_mem_cons.mp h
  refine ⟨List.cons_ne_nil _ _, ?_, (intercalate_padded pad word words).symm⟩
  rw [List.forall_mem_cons, List.forall_mem_map]
  exact ⟨hfirst.lacking, fun next hn => (hlater next hn).padded_lacking hpad⟩

theorem padded_readings {pad : String} (hpad : IsBlankText pad) {word : String}
    {words : List String} (h : ∀ next ∈ word :: words, IsListed next) :
    ((word :: words.map (pad ++ ·)).map fun piece => lower (trim piece)) = word :: words := by
  obtain ⟨hfirst, hlater⟩ := List.forall_mem_cons.mp h
  have hnone : IsBlankText "" := by simp [IsBlankText]
  have hbare := hfirst.reading hnone
  have hpadded : words.map ((fun piece => lower (trim piece)) ∘ (pad ++ ·)) = words.map id :=
    List.map_congr_left fun next hn => (hlater next hn).reading hpad
  rw [String.empty_append] at hbare
  rw [List.map_cons, hbare, List.map_map, hpadded, List.map_id]

theorem parseWordList_padded {pad : String} (hpad : IsBlankText pad) {words : List String}
    (h : ∀ word ∈ words, IsListed word) :
    parseWordList (("," ++ pad).intercalate words) = words := by
  cases words with
  | nil =>
    have hpieces : Pieces ',' [""] (("," ++ pad).intercalate []) := ⟨by simp, by simp, by simp⟩
    rw [parseWordList_readings hpieces]
    rfl
  | cons word words =>
    rw [parseWordList_readings (padded_pieces hpad h), padded_readings hpad h, List.filter_eq_self]
    intro next hn
    simpa using (h next hn).nonempty

/-- The list is unset if there is none or it holds nothing but blanks and commas. -/
theorem ignoredWords_eq_none_iff (lookup : String → Option String) :
    (FlatOverrides.ofLookup lookup).ignoredWords = none ↔
      lookup "AGENT_FILLER_WORDS" = none ∨ ∃ listing pieces,
        lookup "AGENT_FILLER_WORDS" = some listing ∧ Pieces ',' pieces listing ∧
          ∀ piece ∈ pieces, IsBlankText piece := by
  rw [FlatOverrides.ofLookup]
  cases lookup "AGENT_FILLER_WORDS" with
  | none => simp
  | some listing =>
    have hunset : ((some listing).map parseWordList).filter (! ·.isEmpty) = none ↔
        parseWordList listing = [] := by simp
    rw [hunset]
    constructor
    · intro h
      have hpieces := splitOn_pieces ',' listing
      exact .inr ⟨listing, _, rfl, hpieces, (parseWordList_eq_nil_iff hpieces).mp h⟩
    · rintro (h | ⟨_, pieces, h, hpieces, hblank⟩)
      · simp at h
      · obtain rfl := Option.some_inj.mp h
        exact (parseWordList_eq_nil_iff hpieces).mpr hblank

/-- The words of a list are those of its pieces in their order, each stable; a list put together
from them has the same words. No words are set exactly if no list is given or its pieces are all
blank. -/
theorem word_lists_stable (raw : String) (lookup : String → Option String) :
    (∃ pieces, (∀ other, Pieces ',' other raw ↔ other = pieces) ∧
      parseWordList raw =
        (pieces.filter (¬ IsBlankText ·)).map fun piece => lower (trim piece)) ∧
    (∀ word ∈ parseWordList raw, IsListed word) ∧
    parseWordList (",".intercalate (parseWordList raw)) = parseWordList raw ∧
    parseWordList (", ".intercalate (parseWordList raw)) = parseWordList raw ∧
    ((FlatOverrides.ofLookup lookup).ignoredWords = none ↔
      lookup "AGENT_FILLER_WORDS" = none ∨ ∃ listing pieces,
        lookup "AGENT_FILLER_WORDS" = some listing ∧ Pieces ',' pieces listing ∧
          ∀ piece ∈ pieces, IsBlankText piece) := by
  have hlisted := parseWordList_isListed raw
  have hnone : IsBlankText "" := by simp [IsBlankText]
  have hspace : IsBlankText " " := by decide
  have hjoined : "," ++ " " = ", " := by decide
  refine ⟨⟨raw.splitOn ",", fun other => pieces_iff ',' other raw, ?_⟩, hlisted, ?_, ?_, ?_⟩
  · exact parseWordList_pieces (splitOn_pieces ',' raw)
  · have hagain := parseWordList_padded hnone hlisted
    rwa [String.append_empty] at hagain
  · have hagain := parseWordList_padded hspace hlisted
    rwa [hjoined] at hagain
  · exact ignoredWords_eq_none_iff lookup

end BargeIn
