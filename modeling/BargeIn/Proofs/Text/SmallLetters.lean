import BargeIn.Text.Case

/-!
# Small letters stay small

No small form is a capital, so a text in small letters is left as it is. A space neither has case
nor is passed over, so the letters on its two sides are made small independently.
-/

set_option autoImplicit false

namespace BargeIn.Text

namespace CaseRun

def letters (r : CaseRun) : List Nat :=
  (List.range ((r.last - r.first) / r.stride + 1)).map fun k => r.first + r.stride * k

def shifted (r : CaseRun) (n : Nat) : Nat :=
  (n + r.shift).toNat

def misses (r other : CaseRun) : Bool :=
  Nat.blt (r.shifted r.last) other.first || Nat.blt other.last (r.shifted r.first) ||
    r.letters.all fun n => !other.covers (r.shifted n)

theorem mem_letters {r : CaseRun} {n : Nat} (h : r.covers n = true) : n ∈ r.letters := by
  simp only [covers, Bool.and_eq_true, decide_eq_true_eq, beq_iff_eq] at h
  obtain ⟨⟨hfirst, hlast⟩, hstride⟩ := h
  have hdiv := Nat.div_add_mod (n - r.first) r.stride
  refine List.mem_map.mpr ⟨(n - r.first) / r.stride, ?_, by omega⟩
  have hle : (n - r.first) / r.stride ≤ (r.last - r.first) / r.stride :=
    Nat.div_le_div_right (by omega)
  rw [List.mem_range]
  omega

theorem misses_sound {r other : CaseRun} {n : Nat} (h : r.misses other = true)
    (hn : r.covers n = true) : other.covers (r.shifted n) = false := by
  have hmem := mem_letters hn
  simp only [covers, Bool.and_eq_true, decide_eq_true_eq] at hn
  simp only [misses, Bool.or_eq_true, Nat.blt_eq, List.all_eq_true, Bool.not_eq_true'] at h
  rcases h with (h | h) | h
  · have hlow : ¬ other.first ≤ r.shifted n := by
      unfold shifted at h ⊢
      omega
    simp [covers, hlow]
  · have hhigh : ¬ r.shifted n ≤ other.last := by
      unfold shifted at h ⊢
      omega
    simp [covers, hhigh]
  · exact h n hmem

end CaseRun

/-- The code point is its own small form, wherever it stands. -/
def IsSmall (c : Char) : Prop :=
  smallLetter c = c ∧ c ≠ 'Σ' ∧ c ≠ 'İ'

instance (c : Char) : Decidable (IsSmall c) :=
  inferInstanceAs (Decidable (_ ∧ _))

def dotted : CaseRun := ⟨0x130, 0x130, 1, 0⟩

theorem capitals_miss : (capitals.all fun r => (dotted :: capitals).all r.misses) = true := by
  decide +kernel

/-- A code point that no run lists, the dotted capital's included, is small. -/
theorem isSmall_of_uncovered {c : Char} (h : ∀ r ∈ dotted :: capitals, r.covers c.toNat = false) :
    IsSmall c := by
  have hfind : capitals.find? (·.covers c.toNat) = none := by
    rw [List.find?_eq_none]
    intro r hr
    simp [h r (List.mem_cons_of_mem dotted hr)]
  refine ⟨by rw [smallLetter, hfind], ?_, ?_⟩
  · rintro rfl
    exact absurd hfind (by decide +kernel)
  · rintro rfl
    exact absurd (h dotted List.mem_cons_self) (by decide)

theorem uncovered_zero : ∀ r ∈ dotted :: capitals, r.covers 0 = false := by
  decide +kernel

theorem ofNat_cases (n : Nat) : (Char.ofNat n).toNat = n ∨ (Char.ofNat n).toNat = 0 := by
  by_cases h : n.isValidChar
  · rw [Char.ofNat, dif_pos h]
    exact .inl rfl
  · rw [Char.ofNat, dif_neg h]
    exact .inr rfl

/-- A small letter is the code point itself or that of a run, unless it is no code point. -/
theorem smallLetter_cases (c : Char) : smallLetter c = c ∨ ∃ r ∈ capitals, r.covers c.toNat = true ∧
    ((smallLetter c).toNat = r.shifted c.toNat ∨ (smallLetter c).toNat = 0) := by
  cases hfind : capitals.find? (·.covers c.toNat) with
  | none =>
    left
    rw [smallLetter, hfind]
  | some r =>
    have hc : smallLetter c = Char.ofNat (r.shifted c.toNat) := by rw [smallLetter, hfind]; rfl
    right
    rw [hc]
    exact ⟨r, List.mem_of_find?_eq_some hfind, by simpa using List.find?_some hfind,
      ofNat_cases _⟩

theorem smallLetter_isSmall {c : Char} (hs : c ≠ 'Σ') (hd : c ≠ 'İ') : IsSmall (smallLetter c) := by
  obtain hc | ⟨r, hr, hcovers, hn⟩ := smallLetter_cases c
  · rw [hc]
    exact ⟨hc, hs, hd⟩
  · apply isSmall_of_uncovered
    intro other hother
    have hmisses := List.all_eq_true.mp capitals_miss r hr
    have hmiss := CaseRun.misses_sound (List.all_eq_true.mp hmisses other hother) hcovers
    rcases hn with hn | hn <;> rw [hn]
    · exact hmiss
    · exact uncovered_zero other hother

theorem lowerAt_isSmall (before : List Char) (c : Char) (after : List Char) :
    ∀ d ∈ lowerAt before c after, IsSmall d := by
  intro d hd
  unfold lowerAt at hd
  split at hd
  · rw [List.mem_singleton] at hd
    split at hd <;> subst hd <;> decide +kernel
  · split at hd
    · rw [List.mem_cons, List.mem_singleton] at hd
      rcases hd with rfl | rfl <;> decide +kernel
    · rw [List.mem_singleton] at hd
      subst hd
      exact smallLetter_isSmall ‹_› ‹_›

theorem lowerFrom_isSmall (before cs : List Char) : ∀ d ∈ lowerFrom before cs, IsSmall d := by
  induction cs generalizing before with
  | nil => simp [lowerFrom]
  | cons c after ih =>
    intro d hd
    rcases List.mem_append.mp hd with hd | hd
    · exact lowerAt_isSmall before c after d hd
    · exact ih (c :: before) d hd

theorem lowerChars_isSmall (cs : List Char) : ∀ d ∈ lowerChars cs, IsSmall d :=
  lowerFrom_isSmall [] cs

theorem lowerAt_small (before : List Char) {c : Char} (after : List Char) (h : IsSmall c) :
    lowerAt before c after = [c] := by
  obtain ⟨hc, hs, hd⟩ := h
  rw [lowerAt, if_neg hs, if_neg hd, hc]

theorem lowerFrom_small (before : List Char) {cs : List Char} (h : ∀ c ∈ cs, IsSmall c) :
    lowerFrom before cs = cs := by
  induction cs generalizing before with
  | nil => rfl
  | cons c after ih =>
    rw [lowerFrom, lowerAt_small before after (h c List.mem_cons_self)]
    rw [ih (c :: before) fun d hd => h d (List.mem_cons_of_mem c hd)]
    rfl

theorem lowerChars_small {cs : List Char} (h : ∀ c ∈ cs, IsSmall c) : lowerChars cs = cs :=
  lowerFrom_small [] h

/-! ## Across a space -/

theorem space_isSmall : IsSmall ' ' := by
  decide +kernel

theorem startsCased_space (near far : List Char) :
    startsCased (near ++ ' ' :: far) = startsCased near := by
  have hspace : isCaseIgnorable ' ' = false := by decide +kernel
  have hcased : isCased ' ' = false := by decide +kernel
  unfold startsCased
  induction near with
  | nil => simp [hspace, hcased]
  | cons c near ih => by_cases hc : isCaseIgnorable c = true <;> simp [hc, ih]

theorem lowerFrom_beyond (near far cs : List Char) :
    lowerFrom (near ++ ' ' :: far) cs = lowerFrom near cs := by
  induction cs generalizing near with
  | nil => rfl
  | cons c after ih =>
    have hc : lowerAt (near ++ ' ' :: far) c after = lowerAt near c after := by
      simp only [lowerAt, startsCased_space]
    rw [lowerFrom, lowerFrom, hc, ← List.cons_append, ih]

theorem lowerFrom_space (before cs later : List Char) :
    lowerFrom before (cs ++ ' ' :: later) = lowerFrom before cs ++ ' ' :: lowerChars later := by
  induction cs generalizing before with
  | nil =>
    have hspace := lowerAt_small before later space_isSmall
    have hlater : lowerFrom (' ' :: before) later = lowerChars later :=
      lowerFrom_beyond [] before later
    rw [lowerFrom, List.nil_append, lowerFrom, hspace, hlater]
    rfl
  | cons c after ih =>
    have hc : lowerAt before c (after ++ ' ' :: later) = lowerAt before c after := by
      simp only [lowerAt, startsCased_space]
    rw [List.cons_append, lowerFrom, hc, ih, lowerFrom, List.append_assoc]

theorem lowerChars_space (cs later : List Char) :
    lowerChars (cs ++ ' ' :: later) = lowerChars cs ++ ' ' :: lowerChars later :=
  lowerFrom_space [] cs later

end BargeIn.Text
