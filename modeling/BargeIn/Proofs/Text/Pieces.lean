import Mathlib.Data.String.Basic

/-!
# Pieces between separators

Splitting a text at one code point gives the pieces between its occurrences: at least one piece,
none with the separator in it, and joined with the separator they are the text. No other list of
pieces has these properties.
-/

set_option autoImplicit false

namespace BargeIn.Text

open String (utf8Len)

section Scanning

variable (c : Char)

theorem separator_get : String.Pos.Raw.get (String.singleton c) 0 = c :=
  String.get_of_valid [] [c]

theorem separator_next : String.Pos.Raw.next (String.singleton c) 0 = ⟨c.utf8Size⟩ := by
  simpa using String.next_of_valid [] c []

theorem separator_atEnd : String.Pos.Raw.atEnd (String.singleton c) ⟨c.utf8Size⟩ = true := by
  simpa using String.atEnd_of_valid [c] []

theorem splitOnAux_step (s : String) (first here : String.Pos.Raw) (found : List String) :
    s.splitOnAux (String.singleton c) first here 0 found =
      if here.atEnd s then (first.extract s here :: found).reverse
      else if here.get s == c then
        s.splitOnAux (String.singleton c) (here.next s) (here.next s) 0
          (first.extract s ((here.next s).unoffsetBy ⟨c.utf8Size⟩) :: found)
      else s.splitOnAux (String.singleton c) first (here.next s) 0 found := by
  -- A separator of one code point is met whole or not at all, so its own scan never gets under way.
  rw [String.splitOnAux]
  simp only [separator_get, separator_next, separator_atEnd, if_true]
  rfl

/-- The scan has passed `before` up to the last separator, and `piece` since then. -/
theorem splitOnAux_eq (before piece later : List Char) (found : List String) :
    String.splitOnAux (String.ofList (before ++ piece ++ later)) (String.singleton c)
        ⟨utf8Len before⟩ ⟨utf8Len before + utf8Len piece⟩ 0 found =
      found.reverse ++
        (List.splitOnPPrepend (· == c) later piece.reverse).map String.ofList := by
  induction later generalizing before piece found with
  | nil =>
    have hend := (String.atEnd_of_valid (before ++ piece) []).mpr rfl
    have hpiece := String.extract_of_valid before piece []
    rw [String.utf8Len_append] at hend
    rw [splitOnAux_step, if_pos hend, hpiece]
    simp
  | cons d later ih =>
    have hend := mt (String.atEnd_of_valid (before ++ piece) (d :: later)).mp (List.cons_ne_nil _ _)
    have hget := String.get_of_valid (before ++ piece) (d :: later)
    have hnext := String.next_of_valid (before ++ piece) d later
    have hpiece := String.extract_of_valid before piece (d :: later)
    rw [String.utf8Len_append] at hend hget hnext
    rw [splitOnAux_step, if_neg hend, hget, hnext, List.headD_cons,
      List.splitOnPPrepend_cons_eq_if]
    by_cases hd : d = c
    · -- The piece is complete, and the next one begins behind the separator.
      subst hd
      have hcut : (⟨utf8Len before + utf8Len piece + d.utf8Size⟩ : String.Pos.Raw).unoffsetBy
          ⟨d.utf8Size⟩ = ⟨utf8Len before + utf8Len piece⟩ := by
        simp [String.Pos.Raw.unoffsetBy]
      have hlater := ih (before ++ piece ++ [d]) [] (String.ofList piece :: found)
      rw [if_pos (beq_self_eq_true d), if_pos (beq_self_eq_true d), hcut, hpiece]
      simpa [String.utf8Len_append, -String.ofList_append, Nat.add_assoc] using hlater
    · have hlater := ih before (piece ++ [d]) found
      have hoff : ¬ (d == c) = true := by simpa using hd
      rw [if_neg hoff, if_neg hoff]
      simpa [String.utf8Len_append, -String.ofList_append, Nat.add_assoc] using hlater

end Scanning

theorem splitOn_eq (s : String) (c : Char) :
    s.splitOn (String.singleton c) = (s.toList.splitOn c).map String.ofList := by
  have hsep : (String.singleton c == "") = false := by simp
  have hscan := splitOnAux_eq c [] [] s.toList []
  rw [List.nil_append, List.nil_append, String.ofList_toList] at hscan
  rw [String.splitOn, hsep]
  exact hscan

theorem splitOn_lacks (c : Char) (cs : List Char) : ∀ piece ∈ cs.splitOn c, c ∉ piece := by
  induction cs with
  | nil => simp
  | cons d cs ih =>
    obtain ⟨first, later, hcs⟩ := List.exists_cons_of_ne_nil (List.splitOn_ne_nil c cs)
    rw [hcs, List.forall_mem_cons] at ih
    rw [List.splitOn_cons_eq_if_modifyHead, hcs]
    by_cases hd : d = c
    · simpa [hd] using ih
    · rw [if_neg (by simpa using hd), List.modifyHead_cons, List.forall_mem_cons]
      exact ⟨List.not_mem_cons_of_ne_of_not_mem (Ne.symm hd) ih.1, ih.2⟩

/-- The pieces lack the separator, and joined with it they are the text. -/
structure Pieces (c : Char) (pieces : List String) (s : String) : Prop where
  nonempty : pieces ≠ []
  lacking : ∀ piece ∈ pieces, c ∉ piece.toList
  joined : (String.singleton c).intercalate pieces = s

theorem splitOn_pieces (c : Char) (s : String) :
    Pieces c (s.splitOn (String.singleton c)) s := by
  rw [splitOn_eq]
  refine ⟨?_, ?_, ?_⟩
  · simp
  · simpa using splitOn_lacks c s.toList
  · rw [← String.toList_inj, String.toList_intercalate, List.map_map]
    have hlists : String.toList ∘ String.ofList = id := by
      funext cs
      simp
    rw [hlists, List.map_id, String.toList_singleton, List.intercalate_splitOn]

theorem Pieces.eq_splitOn {c : Char} {pieces : List String} {s : String} (h : Pieces c pieces s) :
    pieces = s.splitOn (String.singleton c) := by
  have hlists : (pieces.map String.toList).map String.ofList = pieces := by simp
  have hlacking : ∀ cs ∈ pieces.map String.toList, c ∉ cs := by
    intro cs hcs
    obtain ⟨piece, hpiece, rfl⟩ := List.mem_map.mp hcs
    exact h.lacking piece hpiece
  rw [splitOn_eq, ← h.joined, String.toList_intercalate, String.toList_singleton,
    List.splitOn_intercalate c hlacking (by simpa using h.nonempty), hlists]

theorem pieces_iff (c : Char) (pieces : List String) (s : String) :
    Pieces c pieces s ↔ pieces = s.splitOn (String.singleton c) :=
  ⟨Pieces.eq_splitOn, fun h => h ▸ splitOn_pieces c s⟩

end BargeIn.Text
