import BargeIn.Proofs.Text.Clusters
import BargeIn.Proofs.Text.SmallLetters

/-!
# The normal form, one code point at a time

A sieve reads a text in small letters and passes on the clusters that are kept; the normal form is
what it passes on. What it passes on it passes on again, because taking clusters away only merges
those that are left, and each of these still begins with a part of a word or a blank.
-/

set_option autoImplicit false

namespace BargeIn.Text

open Grapheme

/-- How far a text has been read, and whether the open cluster is kept. -/
structure Sieve where
  scan : Scan
  kept : Bool
deriving Repr, DecidableEq

namespace Sieve

def keeps (σ : Sieve) (c : Char) : Bool :=
  if σ.scan.holds c then σ.kept else startsKept [c]

def next (σ : Sieve) (c : Char) : Sieve :=
  ⟨σ.scan.next c, σ.keeps c⟩

def pass (σ : Sieve) : List Char → List Char
  | [] => []
  | c :: cs => if σ.keeps c then c :: (σ.next c).pass cs else (σ.next c).pass cs

def after (σ : Sieve) (cs : List Char) : Sieve :=
  cs.foldl next σ

def fresh : Sieve :=
  ⟨.fresh, true⟩

@[simp] theorem fresh_keeps (c : Char) : fresh.keeps c = startsKept [c] := by
  simp [keeps, fresh]

theorem keeps_start {σ : Sieve} {c : Char} (hk : σ.kept = true) (hc : startsKept [c] = true) :
    σ.keeps c = true := by
  unfold keeps
  split
  · exact hk
  · exact hc

theorem pass_clusters (σ : Sieve) (cs : List Char) :
    σ.pass cs = (if σ.kept then (clustersFrom σ.scan cs).1 else []) ++
      ((clustersFrom σ.scan cs).2.filter startsKept).flatten := by
  induction cs generalizing σ with
  | nil => simp [pass, clustersFrom]
  | cons c cs ih =>
    have hstart : startsKept (c :: (clustersFrom (σ.scan.next c) cs).1) = startsKept [c] := rfl
    rw [pass, ih]
    by_cases hc : σ.scan.holds c = true
    · cases hk : σ.kept <;> simp [clustersFrom, next, keeps, hc, hk]
    · cases hk : startsKept [c] <;> simp [clustersFrom, next, keeps, hc, hk, hstart]

theorem pass_append (σ : Sieve) (cs later : List Char) :
    σ.pass (cs ++ later) = σ.pass cs ++ (σ.after cs).pass later := by
  induction cs generalizing σ with
  | nil => rfl
  | cons c cs ih =>
    simp only [List.cons_append, pass, ih, after, List.foldl_cons]
    split <;> rfl

theorem pass_sublist (σ : Sieve) (cs : List Char) : (σ.pass cs).Sublist cs := by
  induction cs generalizing σ with
  | nil => exact .slnil
  | cons c cs ih =>
    unfold pass
    split
    · exact (ih (σ.next c)).cons_cons c
    · exact (ih (σ.next c)).cons c

theorem pass_cons_eq_iff (σ : Sieve) (c : Char) (cs : List Char) :
    σ.pass (c :: cs) = c :: cs ↔ σ.keeps c = true ∧ (σ.next c).pass cs = cs := by
  rw [pass]
  cases hc : σ.keeps c with
  | true => simp
  | false =>
    have hshort := (pass_sublist (σ.next c) cs).length_le
    have hne : (σ.next c).pass cs ≠ c :: cs := by
      intro h
      rw [h, List.length_cons] at hshort
      omega
    simp [hne]

/-- The second sieve has seen what the first has passed on, and it keeps all of it. -/
structure Follows (σ τ : Sieve) : Prop where
  settled : σ.scan.Settled
  kept : τ.kept = true
  covers : σ.kept = true → Scan.Covers σ.scan τ.scan

theorem fresh_follows : Follows fresh fresh :=
  ⟨Scan.fresh_settled, rfl, fun _ => .refl _⟩

theorem Follows.keeps {σ τ : Sieve} (h : Follows σ τ) {c : Char} (hc : σ.keeps c = true) :
    τ.keeps c = true := by
  unfold Sieve.keeps at hc
  split at hc
  · next hheld => rw [Sieve.keeps, if_pos ((h.covers hc).holds hheld), h.kept]
  · exact keeps_start h.kept hc

theorem Follows.next {σ τ : Sieve} (h : Follows σ τ) {c : Char} (hc : σ.keeps c = true) :
    Follows (σ.next c) (τ.next c) := by
  refine ⟨Scan.next_settled σ.scan c, h.keeps hc, fun _ => ?_⟩
  unfold Sieve.keeps at hc
  split at hc
  · exact (h.covers hc).next c
  · next hheld =>
    change Scan.Covers (σ.scan.next c) (τ.scan.next c)
    rw [Scan.unheld_next h.settled (by simpa using hheld)]
    exact Scan.fresh_covers τ.scan hc

theorem Follows.skip {σ τ : Sieve} (h : Follows σ τ) {c : Char} (hc : σ.keeps c = false) :
    Follows (σ.next c) τ :=
  ⟨Scan.next_settled σ.scan c, h.kept, fun hkept => absurd (hc.symm.trans hkept) (by simp)⟩

theorem Follows.pass_pass {σ τ : Sieve} (h : Follows σ τ) (cs : List Char) :
    τ.pass (σ.pass cs) = σ.pass cs := by
  induction cs generalizing σ τ with
  | nil => rfl
  | cons c cs ih =>
    rw [pass]
    cases hc : σ.keeps c with
    | true =>
      rw [if_pos rfl, pass_cons_eq_iff]
      exact ⟨h.keeps hc, ih (h.next hc)⟩
    | false => exact ih (h.skip hc)

end Sieve

theorem normalizeChars_eq (cs : List Char) : normalizeChars cs = Sieve.fresh.pass (lowerChars cs) := by
  have hfresh : (clustersFrom Scan.fresh (lowerChars cs)).1 = [] := by
    cases lowerChars cs with
    | nil => rfl
    | cons c later => simp [clustersFrom]
  rw [Sieve.pass_clusters, normalizeChars, Scan.clusters_eq]
  simp [Sieve.fresh, hfresh]

theorem normalizeChars_isSmall (cs : List Char) : ∀ c ∈ normalizeChars cs, IsSmall c := by
  intro c hc
  rw [normalizeChars_eq] at hc
  exact lowerChars_isSmall cs c ((Sieve.pass_sublist _ _).subset hc)

/-- A text in small letters is normalized by the sieve alone. -/
theorem normalizeChars_small {cs : List Char} (h : ∀ c ∈ cs, IsSmall c) :
    normalizeChars cs = Sieve.fresh.pass cs := by
  rw [normalizeChars_eq, lowerChars_small h]

theorem pass_normalizeChars (cs : List Char) :
    Sieve.fresh.pass (normalizeChars cs) = normalizeChars cs := by
  rw [normalizeChars_eq]
  exact Sieve.fresh_follows.pass_pass _

theorem normalizeChars_normalizeChars (cs : List Char) :
    normalizeChars (normalizeChars cs) = normalizeChars cs := by
  rw [normalizeChars_small (normalizeChars_isSmall cs), pass_normalizeChars]

theorem normalize_normalize (s : String) : normalize (normalize s) = normalize s := by
  simp [normalize, normalizeChars_normalizeChars]

theorem tokenize_normalize (s : String) : tokenize (normalize s) = tokenize s := by
  simp [tokenize, normalize, normalizeChars_normalizeChars]

end BargeIn.Text
