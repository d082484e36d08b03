import Mathlib.Tactic.ByContra
import Mathlib.Tactic.SplitIfs
import BargeIn.Text.Words

/-!
# What a cluster depends on

A cluster that begins after a boundary is read as if the text began with it. A scan that remembers
more of the text before it can only hold more, so a boundary may vanish when text is taken away
but none appears.
-/

set_option autoImplicit false

namespace BargeIn.Text

namespace CodeSet

def members (s : CodeSet) : List Nat :=
  s.flatMap fun span => List.range' span.1 (span.2 + 1 - span.1)

theorem mem_members {s : CodeSet} {n : Nat} (h : s.contains n = true) : n ∈ s.members := by
  induction s with
  | nil => simp [contains] at h
  | cons span later ih =>
    obtain ⟨lo, hi⟩ := span
    rw [members, List.flatMap_cons, List.mem_append]
    unfold contains at h
    split at h
    · simp at h
    · split at h
      · refine .inl (List.mem_range'_1.mpr ?_)
        dsimp only
        omega
      · exact .inr (ih h)

theorem of_members {s : CodeSet} {P : Char → Prop} (h : ∀ n ∈ s.members, P (Char.ofNat n))
    {c : Char} (hc : s.contains c.toNat = true) : P c := by
  have hmem := h c.toNat (mem_members hc)
  rwa [Char.ofNat_toNat] at hmem

end CodeSet

namespace Grapheme

def Kind.attaches : Kind → Bool
  | .extend | .joiner | .spacingMark => true
  | _ => false

theorem consonant_kind {c : Char} (h : conjunctConsonants.contains c.toNat = true) :
    (Kind.of c).isControl = false :=
  CodeSet.of_members (P := fun c => (Kind.of c).isControl = false) (by decide +kernel) h

theorem linker_kind {c : Char} (h : conjunctLinkers.contains c.toNat = true) :
    Kind.of c = .extend :=
  CodeSet.of_members (P := fun c => Kind.of c = .extend) (by decide +kernel) h

theorem blank_kind {c : Char} (h : isBlank c = true) :
    Kind.of c = .other ∨ (Kind.of c).isControl = true :=
  CodeSet.of_members (P := fun c => Kind.of c = .other ∨ (Kind.of c).isControl = true)
    (by decide +kernel) h

theorem blank_unjoined {c : Char} (h : isBlank c = true) :
    conjunctConsonants.contains c.toNat = false ∧ conjunctLinkers.contains c.toNat = false :=
  CodeSet.of_members (P := fun c => conjunctConsonants.contains c.toNat = false ∧
    conjunctLinkers.contains c.toNat = false) (by decide +kernel) h

theorem regional_range {c : Char} (h : Kind.of c = .regional) :
    0x1F1E6 ≤ c.toNat ∧ c.toNat ≤ 0x1F1FF := by
  simp only [Kind.of, ite_eq_iff, reduceCtorEq, and_false, and_true, or_self, or_false, false_or,
    Bool.and_eq_true, decide_eq_true_eq] at h
  -- the earlier kinds are ruled out one by one, and the range comes last
  exact h.2.2.2.2.2.2.2

theorem regional_dropped {c : Char} (h : Kind.of c = .regional) : startsKept [c] = false := by
  obtain ⟨hlo, hhi⟩ := regional_range h
  have hspan : CodeSet.contains [(0x1F1E6, 0x1F1FF)] c.toNat = true := by
    simp [CodeSet.contains, Nat.not_lt.mpr hlo, hhi]
  exact CodeSet.of_members (P := fun c => startsKept [c] = false) (by decide +kernel) hspan

namespace Scan

theorem fuse_absent (previous : Fusion) (kind : Kind) :
    fuse .absent kind = .absent ∨ fuse .absent kind = fuse previous kind := by
  cases kind <;> simp [fuse]

theorem conjoin_absent (previous : Conjunct) (c : Char) (kind : Kind) :
    conjoin .absent c kind = .absent ∨ conjoin .absent c kind = conjoin previous c kind := by
  by_cases hc : conjunctConsonants.contains c.toNat = true
  · exact .inr (by simp [conjoin, hc])
  · exact .inl (by simp [conjoin, hc])

def fresh : Scan :=
  ⟨.control, false, .absent, .absent⟩

@[simp] theorem fresh_holds (c : Char) : fresh.holds c = false := by
  simp [holds, fresh, Kind.isControl]

theorem start_eq (c : Char) : start c = fresh.next c := by
  simp [start, next, fresh]

theorem clusters_eq (cs : List Char) : clusters cs = (clustersFrom fresh cs).2 := by
  cases cs with
  | nil => rfl
  | cons c cs => simp [clusters, clustersFrom, start_eq]

def Settled (s : Scan) : Prop :=
  s.last.isControl = true → s.fusion = .absent ∧ s.conjunct = .absent

theorem fresh_settled : Settled fresh :=
  fun _ => ⟨rfl, rfl⟩

theorem next_settled (s : Scan) (c : Char) : Settled (s.next c) := by
  intro (hkind : (Kind.of c).isControl = true)
  constructor
  · change fuse s.fusion (Kind.of c) = .absent
    cases hk : Kind.of c <;> simp_all [fuse, Kind.isControl]
  · have hconsonant : conjunctConsonants.contains c.toNat = false := by
      by_contra hc
      rw [consonant_kind (by simpa using hc)] at hkind
      exact absurd hkind (by simp)
    have hlinker : conjunctLinkers.contains c.toNat = false := by
      by_contra hc
      rw [linker_kind (by simpa using hc)] at hkind
      exact absurd hkind (by simp [Kind.isControl])
    change conjoin s.conjunct c (Kind.of c) = .absent
    cases hk : Kind.of c <;> simp_all [conjoin, Kind.isControl]

theorem attaches_held {s : Scan} {c : Char} (hc : (Kind.of c).attaches = true) :
    s.holds c = !s.last.isControl := by
  unfold holds
  cases hk : Kind.of c <;> simp_all [Kind.attaches, Kind.isControl]

theorem fuse_unattached {kind : Kind} (h : kind.attaches = false) (previous : Fusion) :
    fuse previous kind = fuse .absent kind := by
  cases kind <;> first | rfl | simp [Kind.attaches] at h

theorem conjoin_unattached {c : Char} (h : (Kind.of c).attaches = false) (previous : Conjunct) :
    conjoin previous c (Kind.of c) = conjoin .absent c (Kind.of c) := by
  have hlinker : conjunctLinkers.contains c.toNat = false := by
    by_contra hc
    rw [linker_kind (by simpa using hc)] at h
    simp [Kind.attaches] at h
  cases previous <;> cases hk : Kind.of c <;> simp_all [conjoin, Kind.attaches]

theorem regional_held {s : Scan} {c : Char} (hs : s.last = .regional)
    (hc : Kind.of c = .regional) : s.holds c = s.oddRegional := by
  simp [holds, hs, hc, Kind.isControl]

theorem unheld_next {s : Scan} (hs : Settled s) {c : Char} (h : s.holds c = false) :
    s.next c = fresh.next c := by
  have hregional : (Kind.of c == .regional && !(s.last == .regional && s.oddRegional)) =
      (Kind.of c == .regional) := by
    by_cases hc : Kind.of c = .regional
    · by_cases hl : s.last = .regional
      · rw [regional_held hl hc] at h
        simp [h]
      · simp [hl]
    · simp [hc]
  have hnext : fuse s.fusion (Kind.of c) = fuse .absent (Kind.of c) ∧
      conjoin s.conjunct c (Kind.of c) = conjoin .absent c (Kind.of c) := by
    cases hc : (Kind.of c).attaches with
    | true =>
      rw [attaches_held hc] at h
      obtain ⟨hf, hj⟩ := hs (by simpa using h)
      rw [hf, hj]
      exact ⟨rfl, rfl⟩
    | false => exact ⟨fuse_unattached hc s.fusion, conjoin_unattached hc s.conjunct⟩
  simp only [next, fresh, hregional, hnext.1, hnext.2]
  simp

/-- The scans have read the same last code point, and the first remembers no more of the text
before it than the second. -/
structure Covers (s t : Scan) : Prop where
  last : s.last = t.last
  oddRegional : s.oddRegional = t.oddRegional
  fusion : s.fusion = .absent ∨ s.fusion = t.fusion
  conjunct : s.conjunct = .absent ∨ s.conjunct = t.conjunct

theorem Covers.refl (s : Scan) : Covers s s :=
  ⟨rfl, rfl, .inr rfl, .inr rfl⟩

theorem Covers.holds {s t : Scan} (h : Covers s t) {c : Char} (hs : s.holds c = true) :
    t.holds c = true := by
  obtain ⟨hlast, hregional, hf, hj⟩ := h
  have hfused : s.fusion = .joined → t.fusion = .joined := by
    rcases hf with hf | hf <;> simp [hf]
  have hlinked : s.conjunct = .linked → t.conjunct = .linked := by
    rcases hj with hj | hj <;> simp [hj]
  revert hs
  unfold Scan.holds
  rw [hlast, hregional]
  dsimp only
  split_ifs
  · exact id
  · exact id
  · split <;> simp_all

theorem Covers.next {s t : Scan} (h : Covers s t) (c : Char) : Covers (s.next c) (t.next c) := by
  refine ⟨rfl, ?_, ?_, ?_⟩
  · simp only [Scan.next, h.last, h.oddRegional]
  · change fuse s.fusion _ = .absent ∨ fuse s.fusion _ = fuse t.fusion _
    rcases h.fusion with hf | hf
    · rw [hf]
      exact fuse_absent t.fusion _
    · exact .inr (by rw [hf])
  · change conjoin s.conjunct c _ = .absent ∨ conjoin s.conjunct c _ = conjoin t.conjunct c _
    rcases h.conjunct with hj | hj
    · rw [hj]
      exact conjoin_absent t.conjunct c _
    · exact .inr (by rw [hj])

/-- Where a kept cluster begins, any scan remembers at least what a fresh one does. -/
theorem fresh_covers (t : Scan) {c : Char} (hc : startsKept [c] = true) :
    Covers (fresh.next c) (t.next c) := by
  have hregional : (Kind.of c == .regional) = false := by
    by_contra hk
    rw [regional_dropped (by simpa using hk)] at hc
    exact absurd hc (by simp)
  refine ⟨rfl, ?_, fuse_absent t.fusion _, conjoin_absent t.conjunct c _⟩
  simp only [Scan.next, hregional, Bool.false_and]

end Scan

end Grapheme

end BargeIn.Text
