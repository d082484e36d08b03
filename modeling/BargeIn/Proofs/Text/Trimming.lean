import Mathlib.Data.List.DropRight
import BargeIn.Proofs.Text.Clusters
import BargeIn.Proofs.Text.SmallLetters

/-!
# Trimmed texts in small letters

A trimmed text has no blank at its ends, and trimming leaves such a text alone. Small letters
bring no blank in: a blank is the small form of no letter but itself, and so is a comma. A text
that is trimmed is therefore trimmed still when its letters are made small.
-/

set_option autoImplicit false

namespace BargeIn.Text

structure Unpadded (cs : List Char) : Prop where
  begins : ∀ c ∈ cs.head?, isBlank c = false
  ends : ∀ c ∈ cs.getLast?, isBlank c = false

theorem trimChars_eq (cs : List Char) :
    trimChars cs = (cs.dropWhile isBlank).rdropWhile isBlank :=
  rfl

theorem trimChars_unpadded (cs : List Char) : Unpadded (trimChars cs) := by
  rw [trimChars_eq]
  by_cases hn : (cs.dropWhile isBlank).rdropWhile isBlank = []
  · rw [hn]
    exact ⟨by simp, by simp⟩
  · have hp := List.rdropWhile_prefix isBlank (cs.dropWhile isBlank)
    constructor
    · intro c hc
      rw [Option.mem_def, List.head?_eq_some_head hn, Option.some_inj, hp.head hn] at hc
      exact hc ▸ List.head_dropWhile_not isBlank _
    · intro c hc
      rw [Option.mem_def, List.getLast?_eq_some_getLast hn, Option.some_inj] at hc
      have hlast := List.rdropWhile_last_not isBlank _ hn
      rw [hc] at hlast
      simpa using hlast

theorem trimChars_of_unpadded {cs : List Char} (h : Unpadded cs) : trimChars cs = cs := by
  have hfront : cs.dropWhile isBlank = cs := by
    cases cs with
    | nil => rfl
    | cons c later => rw [List.dropWhile_cons_of_neg (by simp [h.begins c rfl])]
  rw [trimChars_eq, hfront, List.rdropWhile_eq_self_iff]
  intro hn
  simp [h.ends _ (List.getLast?_eq_some_getLast hn)]

theorem trimChars_padded {pad : List Char} (hpad : ∀ c ∈ pad, isBlank c = true) (cs : List Char) :
    trimChars (pad ++ cs) = trimChars cs := by
  have hfront : (pad ++ cs).dropWhile isBlank = cs.dropWhile isBlank :=
    List.dropWhile_append_of_pos hpad
  rw [trimChars, trimChars, hfront]

theorem trimChars_subset (cs : List Char) : trimChars cs ⊆ cs := by
  intro c hc
  have hfront := (List.rdropWhile_prefix isBlank (cs.dropWhile isBlank)).subset hc
  exact (List.dropWhile_suffix isBlank).subset hfront

/-- No letter but the code point itself has it in its small form. The five that are excluded are
the small forms that no run gives, and the code point that stands for none. -/
def IsLone (d : Char) : Prop :=
  (capitals.all fun r => r.misses ⟨d.toNat, d.toNat, 1, 0⟩) = true ∧
    d ∉ ['\x00', 'σ', 'ς', 'i', '\u0307']

instance (d : Char) : Decidable (IsLone d) :=
  inferInstanceAs (Decidable (_ ∧ _))

theorem comma_isLone : IsLone ',' := by
  decide +kernel

theorem blank_isLone {d : Char} (h : isBlank d = true) : IsLone d :=
  CodeSet.of_members (by decide +kernel) h

theorem IsLone.smallLetter {c d : Char} (hd : IsLone d) (h : d = smallLetter c) : c = d := by
  obtain ⟨hmiss, hnot⟩ := hd
  obtain hc | ⟨r, hr, hcovers, hn⟩ := smallLetter_cases c
  · rw [h, hc]
  · rw [← h] at hn
    rcases hn with hn | hn
    · have hoff := CaseRun.misses_sound (List.all_eq_true.mp hmiss r hr) hcovers
      rw [← hn] at hoff
      simp [CaseRun.covers] at hoff
    · have hzero : d = '\x00' := Char.toNat_inj.mp hn
      exact absurd (hzero ▸ List.mem_cons_self) hnot

theorem IsLone.source {c d : Char} (hd : IsLone d) {before after : List Char}
    (h : d ∈ lowerAt before c after) : c = d := by
  unfold lowerAt at h
  split at h
  · refine absurd ?_ hd.2
    split at h <;> simp [List.mem_singleton.mp h]
  · split at h
    · refine absurd ?_ hd.2
      rcases List.mem_pair.mp h with rfl | rfl <;> simp
    · exact hd.smallLetter (List.mem_singleton.mp h)

theorem IsLone.mem {d : Char} (hd : IsLone d) {before cs : List Char}
    (h : d ∈ lowerFrom before cs) : d ∈ cs := by
  induction cs generalizing before with
  | nil => exact h
  | cons c after ih =>
    rcases List.mem_append.mp h with h | h
    · exact hd.source h ▸ List.mem_cons_self
    · exact List.mem_cons_of_mem c (ih h)

theorem lowerAt_ne_nil (before : List Char) (c : Char) (after : List Char) :
    lowerAt before c after ≠ [] := by
  unfold lowerAt
  split
  · simp
  · split <;> simp

theorem lowerFrom_eq_nil_iff (before cs : List Char) : lowerFrom before cs = [] ↔ cs = [] := by
  cases cs with
  | nil => simp [lowerFrom]
  | cons c after => simp [lowerFrom, lowerAt_ne_nil]

theorem IsLone.head {d : Char} (hd : IsLone d) {before cs : List Char}
    (h : d ∈ (lowerFrom before cs).head?) : d ∈ cs.head? := by
  cases cs with
  | nil => exact h
  | cons c after =>
    rw [lowerFrom, List.head?_append_of_ne_nil _ (lowerAt_ne_nil before c after)] at h
    rw [List.head?_cons, hd.source (List.mem_of_head? h)]
    rfl

theorem IsLone.getLast {d : Char} (hd : IsLone d) {before cs : List Char}
    (h : d ∈ (lowerFrom before cs).getLast?) : d ∈ cs.getLast? := by
  induction cs generalizing before with
  | nil => exact h
  | cons c after ih =>
    -- Only the last letter of the text says how its small form ends.
    by_cases hn : after = []
    · subst hn
      rw [lowerFrom, lowerFrom, List.append_nil] at h
      rw [hd.source (List.mem_of_getLast? h)]
      rfl
    · have hlater : lowerFrom (c :: before) after ≠ [] := mt (lowerFrom_eq_nil_iff _ _).mp hn
      rw [lowerFrom, List.getLast?_append_of_ne_nil _ hlater] at h
      rw [← List.singleton_append, List.getLast?_append_of_ne_nil _ hn]
      exact ih h

theorem Unpadded.lower {cs : List Char} (h : Unpadded cs) : Unpadded (lowerChars cs) := by
  constructor
  · intro d hd
    by_contra hblank
    have hlone := blank_isLone (by simpa using hblank)
    exact hblank (h.begins d (hlone.head hd))
  · intro d hd
    by_contra hblank
    have hlone := blank_isLone (by simpa using hblank)
    exact hblank (h.ends d (hlone.getLast hd))

end BargeIn.Text
