import Mathlib.Data.List.Basic
import BargeIn.Proofs.Text.Sieve
import BargeIn.Proofs.Text.Words

/-!
# Marks and spaces

A space is a cluster like any other: marks after it belong to it, and it belongs to a prepended
sign before it. So a word that begins with a mark keeps the mark only behind a space, and a space
can be dropped together with such a sign. These two are the only ways in which the words of a text
depend on what stands beyond a space.
-/

set_option autoImplicit false

namespace BargeIn.Text

open Grapheme

theorem blank_starts {b : Char} (hb : isBlank b = true) : startsKept [b] = true := by
  simp [startsKept, hb]

theorem startsKept_false_nonblank {c : Char} (hc : startsKept [c] = false) : isBlank c = false := by
  by_contra h
  rw [blank_starts (by simpa using h)] at hc
  exact absurd hc (by simp)

theorem lineFeed_blank {c : Char} (h : Kind.of c = .lineFeed) : isBlank c = true := by
  have hn : c.toNat = 0xA := by
    simp only [Kind.of, ite_eq_iff, reduceCtorEq, and_false, and_true, or_self, or_false,
      false_or] at h
    exact h.2
  rw [isBlank, hn]
  decide

namespace Grapheme.Scan

theorem next_blank (s : Scan) {b : Char} (hb : isBlank b = true) :
    s.next b = ⟨Kind.of b, false, .absent, .absent⟩ := by
  obtain ⟨hconsonant, hlinker⟩ := blank_unjoined hb
  rcases blank_kind hb with hk | hk
  · simp [next, fuse, conjoin, hk, hconsonant, hlinker]
  · cases hkind : Kind.of b <;>
      simp_all [next, fuse, conjoin, Kind.isControl]

theorem space_kind : Kind.of ' ' = .other := by
  decide +kernel

theorem space_holds (s : Scan) (c : Char) :
    (s.next ' ').holds c = (Kind.of c).attaches := by
  rw [next_blank s (by decide), space_kind]
  cases hk : Kind.of c <;> simp [holds, hk, Kind.isControl, Kind.attaches]

theorem holds_space (s : Scan) : s.holds ' ' = (s.last == .prepended) := by
  have hconsonant : conjunctConsonants.contains 0x20 = false := by decide
  rw [Bool.eq_iff_iff, beq_iff_eq]
  cases hl : s.last <;> simp [holds, space_kind, hl, hconsonant, Kind.isControl]

end Grapheme.Scan

namespace Sieve

/-- Nothing that was read before is remembered, and only marks attach to what was read last. -/
structure Idle (σ : Sieve) : Prop where
  next : ∀ c, σ.scan.next c = Scan.fresh.next c
  holds : ∀ c, isBlank c = false → σ.scan.holds c = true → (Kind.of c).attaches = true

theorem fresh_idle : Idle fresh :=
  ⟨fun _ => rfl, fun c _ h => absurd h (by simp [fresh])⟩

theorem blank_idle (σ : Sieve) {b : Char} (hb : isBlank b = true) : Idle (σ.next b) := by
  have hscan : (σ.next b).scan = ⟨Kind.of b, false, .absent, .absent⟩ := σ.scan.next_blank hb
  constructor
  · intro c
    simp [hscan, Scan.next, Scan.fresh]
  · intro c hc hheld
    rw [hscan] at hheld
    have hline : Kind.of c ≠ .lineFeed := fun h => absurd (lineFeed_blank h) (by simp [hc])
    rcases blank_kind hb with hk | hk
    · cases hkind : Kind.of c <;> simp_all [Scan.holds, Kind.isControl, Kind.attaches]
    · simp [Scan.holds, hline, hk] at hheld

theorem Idle.follows {σ τ : Sieve} (hσ : σ.Idle) (hτ : τ.Idle) {c : Char}
    (hc : τ.keeps c = true) : Follows (σ.next c) (τ.next c) := by
  refine ⟨Scan.next_settled σ.scan c, hc, fun _ => ?_⟩
  change Scan.Covers (σ.scan.next c) (τ.scan.next c)
  rw [hσ.next, hτ.next]
  exact .refl _

theorem Idle.keeps_after_space {σ τ : Sieve} (hσ : σ.Idle) (hτ : τ.keeps ' ' = true) {c : Char}
    (hletter : isBlank c = false) (hc : σ.keeps c = true) : (τ.next ' ').keeps c = true := by
  unfold keeps at hc
  split at hc
  · next hheld =>
    have hattaches : (τ.next ' ').scan.holds c = true :=
      (τ.scan.space_holds c).trans (hσ.holds c hletter hheld)
    rw [keeps, if_pos hattaches]
    exact hτ
  · exact keeps_start hτ hc

/-- A text that is kept as a whole is kept as a whole when each run of blanks inside it becomes a
single space. The second part is for the text after a blank, whose space is still to come. -/
theorem pass_respaced (cs : List Char) :
    (∀ σ τ : Sieve, Follows σ τ → σ.pass cs = cs →
      τ.pass ((wordsFrom cs).1 ++ spaced (wordsFrom cs).2) =
        (wordsFrom cs).1 ++ spaced (wordsFrom cs).2) ∧
    (∀ σ τ : Sieve, σ.Idle → τ.kept = true → σ.pass cs = cs →
      τ.pass (spaced (words cs)) = spaced (words cs)) := by
  -- Both parts in one induction: a blank leads from the first to the second, a letter back.
  induction cs with
  | nil => exact ⟨fun _ _ _ _ => rfl, fun _ _ _ _ _ => rfl⟩
  | cons c cs ih =>
    obtain ⟨within, between⟩ := ih
    have hspace : isBlank ' ' = true := by decide
    cases hc : isBlank c with
    | true =>
      rw [wordsFrom_blank c cs hc, words_cons_blank hc, List.nil_append]
      constructor
      · intro σ τ h hpass
        rw [pass_cons_eq_iff] at hpass
        exact between (σ.next c) τ (blank_idle σ hc) h.kept hpass.2
      · intro σ τ _ hτ hpass
        rw [pass_cons_eq_iff] at hpass
        exact between (σ.next c) τ (blank_idle σ hc) hτ hpass.2
    | false =>
      rw [wordsFrom_letter c cs hc, words_cons_letter hc, spaced_cons]
      constructor
      · intro σ τ h hpass
        rw [pass_cons_eq_iff] at hpass
        obtain ⟨hkept, hrest⟩ := hpass
        rw [List.cons_append, pass_cons_eq_iff]
        exact ⟨h.keeps hkept, within _ _ (h.next hkept) hrest⟩
      · intro σ τ hσ hτ hpass
        rw [pass_cons_eq_iff] at hpass
        obtain ⟨hkept, hrest⟩ := hpass
        have hgap : τ.keeps ' ' = true := keeps_start hτ (blank_starts hspace)
        have hnext := hσ.keeps_after_space hgap hc hkept
        rw [List.cons_append, pass_cons_eq_iff, pass_cons_eq_iff]
        exact ⟨hgap, hnext, within _ _ (hσ.follows (blank_idle τ hspace) hnext) hrest⟩

theorem Idle.pass_joined {σ : Sieve} (hσ : σ.Idle) {cs w : List Char} {ws : List (List Char)}
    {c : Char} (hpass : σ.pass cs = cs) (hw : words cs = (c :: w) :: ws)
    (hc : startsKept [c] = true) : fresh.pass (c :: (w ++ spaced ws)) = c :: (w ++ spaced ws) := by
  induction cs generalizing σ with
  | nil => exact absurd hw (by simp [words, wordsFrom])
  | cons d cs ih =>
    rw [pass_cons_eq_iff] at hpass
    obtain ⟨-, hrest⟩ := hpass
    cases hd : isBlank d with
    | true => exact ih (blank_idle σ hd) hrest ((words_cons_blank hd cs).symm.trans hw)
    | false =>
      rw [words_cons_letter hd] at hw
      obtain ⟨hfirst, rfl⟩ := List.cons.inj hw
      obtain ⟨rfl, rfl⟩ := List.cons.inj hfirst
      have hkeeps : fresh.keeps d = true := (fresh_keeps d).trans hc
      rw [pass_cons_eq_iff]
      exact ⟨hkeeps, (pass_respaced cs).1 _ _ (hσ.follows fresh_idle hkeeps) hrest⟩

end Sieve

/-! ## Entries in normal form -/

theorem entry_words {text entry : String} (h : normalizeEntry text = some entry) :
    ∃ c w ws, words (normalizeChars text.toList) = (c :: w) :: ws ∧
      entry.toList = c :: (w ++ spaced ws) ∧ words entry.toList = (c :: w) :: ws := by
  obtain ⟨hn, rfl⟩ := (normalizeEntry_eq_some_iff text entry).mp h
  unfold tokenize at hn ⊢
  cases hwords : words (normalizeChars text.toList) with
  | nil => exact absurd (by rw [hwords, List.map_nil]) hn
  | cons first ws =>
    obtain ⟨c, w, rfl⟩ := List.exists_cons_of_ne_nil
      (words_nonempty _ first (hwords ▸ List.mem_cons_self))
    have hlist := joinWords_toList (c :: w) ws
    refine ⟨c, w, ws, rfl, hlist, ?_⟩
    rw [hlist]
    exact words_joined (hwords ▸ words_nonempty _) (hwords ▸ words_nonblank _)

theorem map_ofList_injective : Function.Injective (List.map String.ofList) :=
  List.map_injective_iff.mpr fun _ _ h => String.ofList_injective h

theorem tokenize_eq_iff (s t : String) :
    tokenize s = tokenize t ↔ words (normalizeChars s.toList) = words (normalizeChars t.toList) :=
  map_ofList_injective.eq_iff

theorem entry_isSmall {text entry : String} (h : normalizeEntry text = some entry) :
    ∀ c ∈ entry.toList, IsSmall c := by
  obtain ⟨c, w, ws, hwords, hentry, -⟩ := entry_words h
  have hletters : ∀ w' ∈ (c :: w) :: ws, ∀ d ∈ w', IsSmall d := by
    intro w' hw' d hd
    have hmem : d ∈ (words (normalizeChars text.toList)).flatten :=
      List.mem_flatten_of_mem (hwords ▸ hw') hd
    rw [words_flatten, List.mem_filter] at hmem
    exact normalizeChars_isSmall _ d hmem.1
  intro d hd
  rw [hentry, ← List.cons_append, List.mem_append, spaced, List.mem_flatMap] at hd
  rcases hd with hd | ⟨w', hw', hd⟩
  · exact hletters _ List.mem_cons_self d hd
  · rcases List.mem_cons.mp hd with rfl | hd
    · exact space_isSmall
    · exact hletters w' (List.mem_cons_of_mem _ hw') d hd

theorem tokenize_entry_iff {text entry : String} (h : normalizeEntry text = some entry) :
    tokenize entry = tokenize text ↔ startsKept entry.toList = true := by
  obtain ⟨c, w, ws, hwords, hentry, hagain⟩ := entry_words h
  have hstart : startsKept entry.toList = startsKept [c] := by rw [hentry]; rfl
  have hpass := normalizeChars_small (entry_isSmall h)
  rw [tokenize_eq_iff, hwords, hstart, hpass]
  constructor
  · intro hsame
    by_contra hc
    have hloose : startsKept [c] = false := by simpa using hc
    rw [← hagain, hentry, Sieve.pass, if_neg (by simp [hloose])] at hsame
    exact words_ne (Sieve.pass_sublist _ _) (startsKept_false_nonblank hloose) hsame
  · intro hc
    have hwhole := Sieve.fresh_idle.pass_joined (pass_normalizeChars text.toList) hwords hc
    rw [hentry, hwhole, ← hentry]
    exact hagain

theorem normalizeEntry_entry_iff {text entry : String} (h : normalizeEntry text = some entry) :
    normalizeEntry entry = some entry ↔ startsKept entry.toList = true := by
  rw [← tokenize_entry_iff h]
  constructor
  · intro hentry
    obtain ⟨_, _, _, hwords, -, hagain⟩ := entry_words h
    obtain ⟨_, _, _, hwords', -, hagain'⟩ := entry_words hentry
    rw [tokenize_eq_iff, hwords', hwords, ← hagain', ← hagain]
  · intro hsame
    obtain ⟨hn, hjoin⟩ := (normalizeEntry_eq_some_iff text entry).mp h
    rw [normalizeEntry_eq_some_iff, hsame]
    exact ⟨hn, hjoin⟩

/-! ## Texts on the two sides of a space -/

def looseStart : List Char → Bool
  | [] => false
  | c :: _ => (Kind.of c).attaches && !startsKept [c]

/-- The text begins with marks that have no letter to go with. -/
def beginsLoose (s : String) : Bool :=
  looseStart (lowerChars s.toList)

def beginsMarked (s : String) : Bool :=
  (lowerChars s.toList).head?.any fun c => (Kind.of c).attaches

def openEnd (cs : List Char) : Bool :=
  cs.getLast?.any (Kind.of · == .prepended) && !(clusters cs).getLast?.any startsKept

/-- The text ends in a cluster that is dropped together with a space after it. -/
def swallowsSpace (s : String) : Bool :=
  openEnd (lowerChars s.toList)

namespace Sieve

theorem after_last (σ : Sieve) (cs : List Char) :
    (σ.after cs).scan.last = (cs.getLast?.map Kind.of).getD σ.scan.last := by
  induction cs generalizing σ with
  | nil => rfl
  | cons c cs ih =>
    change ((σ.next c).after cs).scan.last = _
    rw [ih, List.getLast?_cons]
    cases cs.getLast? <;> rfl

theorem after_kept (σ : Sieve) (cs : List Char) :
    (σ.after cs).kept = ((clustersFrom σ.scan cs).2.getLast?.map startsKept).getD σ.kept := by
  induction cs generalizing σ with
  | nil => rfl
  | cons c cs ih =>
    change ((σ.next c).after cs).kept = _
    rw [ih]
    by_cases hc : σ.scan.holds c = true
    · simp [clustersFrom, next, keeps, hc]
    · simp only [clustersFrom, next, keeps, hc, Bool.false_eq_true, if_false, List.getLast?_cons]
      cases (clustersFrom (σ.scan.next c) cs).2.getLast? <;> rfl

theorem keeps_space (cs : List Char) : (fresh.after cs).keeps ' ' = !openEnd cs := by
  cases cs with
  | nil => rfl
  | cons c cs =>
    obtain ⟨d, hlast⟩ : ∃ d, (c :: cs).getLast? = some d := by simp [List.getLast?_cons]
    obtain ⟨cluster, hcluster⟩ :
        ∃ cluster, (clustersFrom Scan.fresh (c :: cs)).2.getLast? = some cluster := by
      simp [clustersFrom, List.getLast?_cons]
    have hspace : startsKept [' '] = true := blank_starts (by decide)
    rw [keeps, Scan.holds_space, after_last, after_kept, openEnd, Scan.clusters_eq, hlast]
    simp only [fresh, hcluster, hspace, Option.map_some, Option.getD_some, Option.any_some]
    cases Kind.of d == .prepended <;> simp

theorem next_after_space {σ : Sieve} {c : Char} (h : (σ.next ' ').keeps c = fresh.keeps c) :
    (σ.next ' ').next c = fresh.next c := by
  change Sieve.mk ((σ.next ' ').scan.next c) ((σ.next ' ').keeps c) = _
  rw [(blank_idle σ (show isBlank ' ' = true by decide)).next c, h]
  rfl

theorem pass_behind {σ : Sieve} (hσ : σ.keeps ' ' = true) {cs : List Char}
    (hcs : looseStart cs = false) : (σ.next ' ').pass cs = fresh.pass cs := by
  cases cs with
  | nil => rfl
  | cons c cs =>
    have hkeeps : (σ.next ' ').keeps c = fresh.keeps c := by
      rw [fresh_keeps, keeps]
      split
      · next hheld =>
        have hattaches := (σ.scan.space_holds c).symm.trans hheld
        simp only [looseStart, hattaches, Bool.true_and, Bool.not_eq_false'] at hcs
        exact hσ.trans hcs.symm
      · rfl
    rw [pass, pass, hkeeps, next_after_space hkeeps]

theorem pass_unmarked (σ : Sieve) {cs : List Char}
    (hcs : cs.head?.any (fun c => (Kind.of c).attaches) = false) :
    (σ.next ' ').pass cs = fresh.pass cs := by
  cases cs with
  | nil => rfl
  | cons c cs =>
    have hheld : (σ.next ' ').scan.holds c = false := (σ.scan.space_holds c).trans hcs
    have hkeeps : (σ.next ' ').keeps c = fresh.keeps c := by
      rw [fresh_keeps, keeps, hheld]
      rfl
    rw [pass, pass, hkeeps, next_after_space hkeeps]

theorem pass_mono {σ τ : Sieve} (hscan : σ.scan = τ.scan) (hkept : σ.kept = true → τ.kept = true)
    (cs : List Char) : (σ.pass cs).Sublist (τ.pass cs) := by
  induction cs generalizing σ τ with
  | nil => exact .slnil
  | cons c cs ih =>
    have hkeeps : σ.keeps c = true → τ.keeps c = true := by
      simp only [keeps, hscan]
      split
      · exact hkept
      · exact id
    have hrest := ih (σ := σ.next c) (τ := τ.next c) (by simp only [next, hscan]) hkeeps
    simp only [pass]
    split
    · next hc => rw [if_pos (hkeeps hc)]; exact hrest.cons_cons c
    · split
      · exact hrest.cons c
      · exact hrest

/-- Loose marks are kept behind a space and dropped where a text begins. -/
theorem words_behind_loose {σ : Sieve} (hσ : σ.keeps ' ' = true) {cs : List Char}
    (hcs : looseStart cs = true) : words ((σ.next ' ').pass cs) ≠ words (fresh.pass cs) := by
  cases cs with
  | nil => exact absurd hcs (by simp [looseStart])
  | cons c cs =>
    simp only [looseStart, Bool.and_eq_true, Bool.not_eq_true'] at hcs
    obtain ⟨hattaches, hloose⟩ := hcs
    have hheld : (σ.next ' ').scan.holds c = true := (σ.scan.space_holds c).trans hattaches
    have hkeeps : (σ.next ' ').keeps c = true := by rw [keeps, if_pos hheld]; exact hσ
    have hscan := (blank_idle σ (show isBlank ' ' = true by decide)).next c
    rw [pass, if_pos hkeeps, pass, if_neg (by simp [hloose])]
    exact (words_ne (pass_mono hscan.symm (fun _ => hkeeps) cs)
      (startsKept_false_nonblank hloose)).symm

end Sieve

theorem normalizeChars_space (a b : String) :
    normalizeChars (a ++ " " ++ b).toList = normalizeChars a.toList ++
      (Sieve.fresh.after (lowerChars a.toList)).pass (' ' :: lowerChars b.toList) := by
  have hlist : (a ++ " " ++ b).toList = a.toList ++ ' ' :: b.toList := by simp
  rw [normalizeChars_eq, hlist, lowerChars_space, Sieve.pass_append, normalizeChars_eq]

theorem keeps_gap {a : String} (ha : swallowsSpace a = false) :
    (Sieve.fresh.after (lowerChars a.toList)).keeps ' ' = true := by
  rw [Sieve.keeps_space, show openEnd _ = false from ha]
  rfl

theorem normalize_swallowed {a b : String} (ha : swallowsSpace a = true)
    (hb : beginsMarked b = false) : normalize (a ++ " " ++ b) = normalize a ++ normalize b := by
  have hgap : (Sieve.fresh.after (lowerChars a.toList)).keeps ' ' = false := by
    rw [Sieve.keeps_space, show openEnd _ = true from ha]
    rfl
  unfold normalize
  rw [normalizeChars_space, Sieve.pass, if_neg (by simp [hgap]), Sieve.pass_unmarked _ hb,
    ← normalizeChars_eq, String.ofList_append]

theorem words_before {a : String} (ha : swallowsSpace a = false) (b : String) :
    words (normalizeChars (a ++ " " ++ b).toList) = words (normalizeChars a.toList) ++
      words (((Sieve.fresh.after (lowerChars a.toList)).next ' ').pass (lowerChars b.toList)) := by
  rw [normalizeChars_space, Sieve.pass, if_pos (keeps_gap ha), words_append _ _ (by decide)]

theorem tokenize_before {a : String} (ha : swallowsSpace a = false) (b : String) :
    tokenize a <+: tokenize (a ++ " " ++ b) := by
  unfold tokenize
  rw [words_before ha, List.map_append]
  exact List.prefix_append _ _

/-- Words are read independently on the two sides of a space, unless the space is swallowed or
loose marks follow it. -/
theorem tokenize_space_iff {a : String} (ha : swallowsSpace a = false) (b : String) :
    tokenize (a ++ " " ++ b) = tokenize a ++ tokenize b ↔ beginsLoose b = false := by
  unfold tokenize
  rw [words_before ha, List.map_append, List.append_cancel_left_eq, map_ofList_injective.eq_iff,
    normalizeChars_eq b.toList]
  constructor
  · intro hsame
    by_contra hb
    exact Sieve.words_behind_loose (keeps_gap ha) (by simpa [beginsLoose] using hb) hsame
  · intro hb
    rw [Sieve.pass_behind (keeps_gap ha) hb]

theorem beginsLoose_append (b later : String) :
    beginsLoose (b ++ " " ++ later) = beginsLoose b := by
  have hlist : (b ++ " " ++ later).toList = b.toList ++ ' ' :: later.toList := by simp
  unfold beginsLoose
  rw [hlist, lowerChars_space]
  cases lowerChars b.toList with
  | nil => simp [looseStart, Scan.space_kind, Kind.attaches]
  | cons c cs => rfl

theorem tokenize_between {a b : String} (ha : swallowsSpace a = false)
    (hb : beginsLoose b = false) (hb' : swallowsSpace b = false) (later : String) :
    tokenize b <:+: tokenize (a ++ " " ++ b ++ " " ++ later) := by
  have hassoc : a ++ " " ++ b ++ " " ++ later = a ++ " " ++ (b ++ " " ++ later) := by
    simp only [String.append_assoc]
  have hloose : beginsLoose (b ++ " " ++ later) = false := (beginsLoose_append b later).trans hb
  rw [hassoc, (tokenize_space_iff ha _).mpr hloose]
  exact (tokenize_before hb' later).isInfix.trans (List.suffix_append _ _).isInfix

end BargeIn.Text
