import Mathlib.Order.Bounds.Basic
import BargeIn.Proofs.Lexicon.Vocabulary

/-!
# Phrases at an index

The search at an index only asks for windows that lie within the tokens, so it always has an
answer, and the answer is that of the search on the tokens from the index on. A window of `n`
tokens joins to a phrase of at least `n` words, whatever the tokens hold, which is why the bound
of a vocabulary hides none of its phrases.
-/

set_option autoImplicit false

namespace BargeIn.Vocabulary

open Text

/-- The `n` tokens from an index on, at least one, lie within the tokens and are a known phrase. -/
def PhraseAt (known : String → Bool) (tokens : List String) (start n : Nat) : Prop :=
  1 ≤ n ∧ start + n ≤ tokens.length ∧
    known (joinWords (tokens.extract start (start + n))) = true

theorem extract_eq (tokens : List String) (start n : Nat) :
    tokens.extract start (start + n) = (tokens.drop start).take n := by
  rw [List.extract_eq_take_drop, Nat.add_sub_cancel_left]

theorem window_within {tokens : List String} {start n : Nat} (h : start + n ≤ tokens.length) :
    window tokens start (start + n) = .ok (tokens.extract start (start + n)) := by
  rw [window, if_pos ⟨Nat.le_add_right start n, h⟩]

theorem searchAt_within (known : String → Bool) (tokens : List String) (start : Nat) {length : Nat}
    (h : length ≤ tokens.length - start) :
    searchAt known tokens start length = .ok (longestMatch known (tokens.drop start) length) := by
  induction length with
  | zero => rfl
  | succ length ih =>
    -- The longest window tried lies within the tokens, and so do all that are tried after it.
    have hwithin : start + (length + 1) ≤ tokens.length := by omega
    have hfits : length < (tokens.drop start).length := by
      rw [List.length_drop]
      omega
    rw [searchAt, window_within hwithin, extract_eq, ih (by omega), longestMatch,
      decide_eq_true hfits, Bool.true_and]
    by_cases hk : known (joinWords ((tokens.drop start).take (length + 1))) = true
    · simp [bind, Except.bind, hk]
    · simp [bind, Except.bind, hk]

theorem longestMatch_min (known : String → Bool) (tokens : List String) (bound : Nat) :
    longestMatch known tokens (min bound tokens.length) = longestMatch known tokens bound := by
  induction bound with
  | zero => rw [Nat.zero_min]
  | succ bound ih =>
    by_cases h : bound < tokens.length
    · rw [Nat.min_eq_left h]
    · have hmin : min (bound + 1) tokens.length = min bound tokens.length := by omega
      rw [hmin, ih, longestMatch]
      simp [h]

theorem longestMatchAt_eq (known : String → Bool) (tokens : List String) (start bound : Nat) :
    longestMatchAt known tokens start bound =
      .ok (longestMatch known (tokens.drop start) bound) := by
  rw [longestMatchAt, searchAt_within known tokens start (Nat.min_le_right _ _),
    ← List.length_drop, longestMatch_min]

theorem matchFillerAt_eq (v : Vocabulary) (tokens : List String) (start : Nat) :
    v.matchFillerAt tokens start = .ok (v.matchFiller (tokens.drop start)) :=
  longestMatchAt_eq _ _ _ _

theorem matchStopAt_eq (v : Vocabulary) (tokens : List String) (start : Nat) :
    v.matchStopAt tokens start = .ok (v.matchStop (tokens.drop start)) := by
  rw [matchStopAt, longestMatchAt_eq, matchStop]
  cases hm : longestMatch v.isStop (tokens.drop start) v.longestStop with
  | none => rfl
  | some n =>
    obtain ⟨hpos, hle, -⟩ := longestMatch_some _ _ _ _ hm
    have hwithin : start + n ≤ tokens.length := by
      rw [List.length_drop] at hle
      omega
    simp [bind, Except.bind, pure, Except.pure, window_within hwithin]

/-- The phrases at an index are the known runs with which the tokens from there on begin. -/
theorem phraseAt_iff (known : String → Bool) (tokens : List String) (start n : Nat) :
    PhraseAt known tokens start n ↔ ∃ run, run ≠ [] ∧ run <+: tokens.drop start ∧
      known (joinWords run) = true ∧ run.length = n := by
  rw [PhraseAt, extract_eq]
  constructor
  · rintro ⟨hpos, hwithin, hk⟩
    have hlen : ((tokens.drop start).take n).length = n := by
      rw [List.length_take, List.length_drop]
      omega
    refine ⟨_, ?_, List.take_prefix n _, hk, hlen⟩
    exact List.ne_nil_of_length_pos (by omega)
  · rintro ⟨run, hn, hp, hk, rfl⟩
    have hpos := List.length_pos_iff.mpr hn
    have hle := hp.length_le
    rw [List.length_drop] at hle
    rw [← List.prefix_iff_eq_take.mp hp]
    exact ⟨hpos, by omega, hk⟩

section

variable {known : String → Bool} {bound : Nat} (hb : Bounded known bound) (tokens : List String)
  (start : Nat)

include hb

theorem longestMatch_drop_eq_none_iff :
    longestMatch known (tokens.drop start) bound = none ↔ ∀ n, ¬ PhraseAt known tokens start n := by
  rw [longestMatch_eq_none_iff hb]
  simp only [phraseAt_iff]
  constructor
  · rintro h n ⟨run, hn, hp, hk, -⟩
    exact absurd ((h run hn hp).symm.trans hk) (by decide)
  · intro h run hn hp
    apply Bool.eq_false_iff.mpr
    intro hk
    exact h run.length ⟨run, hn, hp, hk, rfl⟩

theorem longestMatch_drop_greatest {n : Nat}
    (h : longestMatch known (tokens.drop start) bound = some n) :
    IsGreatest {n | PhraseAt known tokens start n} n := by
  obtain ⟨run, hl, rfl⟩ := (longestMatch_eq_some_iff hb _ _).mp h
  constructor
  · exact (phraseAt_iff known tokens start _).mpr
      ⟨run, hl.nonempty, hl.begins, hl.isKnown, rfl⟩
  · intro m hm
    obtain ⟨other, -, hp, hk, rfl⟩ := (phraseAt_iff known tokens start m).mp hm
    exact hl.longest other hp hk

theorem longestMatch_drop_eq_some_iff (n : Nat) :
    longestMatch known (tokens.drop start) bound = some n ↔
      IsGreatest {n | PhraseAt known tokens start n} n := by
  constructor
  · exact longestMatch_drop_greatest hb tokens start
  · intro hn
    cases hm : longestMatch known (tokens.drop start) bound with
    | none => exact absurd hn.1 ((longestMatch_drop_eq_none_iff hb tokens start).mp hm n)
    | some m => rw [(longestMatch_drop_greatest hb tokens start hm).unique hn]

end

/-- At every index of every list of tokens, and past its end, the search has an answer: the
greatest window that is a phrase of the vocabulary, or none if there is no such window. -/
theorem greatest_phrases_found {v : Vocabulary} (h : Reachable v) (tokens : List String)
    (start : Nat) :
    (∃ found, v.matchFillerAt tokens start = .ok found ∧
      (∀ n, found = some n ↔ IsGreatest {n | PhraseAt v.isFiller tokens start n} n) ∧
      (found = none ↔ ∀ n, ¬ PhraseAt v.isFiller tokens start n)) ∧
    ∃ found, v.matchStopAt tokens start = .ok found ∧
      (∀ matched, found = some matched ↔
        ∃ n, IsGreatest {n | PhraseAt v.isStop tokens start n} n ∧
          joinWords (tokens.extract start (start + n)) = matched) ∧
      (found = none ↔ ∀ n, ¬ PhraseAt v.isStop tokens start n) := by
  have hfillers := h.wellFormed.fillersBounded
  have hstops := h.wellFormed.stopsBounded
  refine ⟨⟨_, matchFillerAt_eq v tokens start, ?_, ?_⟩, _, matchStopAt_eq v tokens start, ?_, ?_⟩
  · exact longestMatch_drop_eq_some_iff hfillers tokens start
  · exact longestMatch_drop_eq_none_iff hfillers tokens start
  · intro matched
    simp only [matchStop, Option.map_eq_some_iff, extract_eq,
      longestMatch_drop_eq_some_iff hstops tokens start]
  · rw [matchStop, Option.map_eq_none_iff]
    exact longestMatch_drop_eq_none_iff hstops tokens start

/-- A token may hold a space or nothing, and a phrase may have been added later. -/
theorem greatest_phrases_found_spaced :
    let built : Vocabulary := ⟨[("you", none)], ["hold on"], 1, 2⟩
    let v : Vocabulary := ⟨[("you", none), ("you know what", none)], ["hold on"], 3, 2⟩
    let tokens := ["", "you", "know what", "hold", "on", ""]
    build [(none, "You")] ["Hold on!"] = .ok built ∧ (built.addFillers ["You know what"]).1 = v ∧
      v.matchFillerAt tokens 1 = .ok (some 2) ∧
      IsGreatest {n | PhraseAt v.isFiller tokens 1 n} 2 ∧
      (∀ n, ¬ PhraseAt v.isFiller tokens 9 n) ∧
      v.matchStopAt tokens 3 = .ok (some "hold on") ∧
      ∃ n, IsGreatest {n | PhraseAt v.isStop tokens 3 n} n ∧
        joinWords (tokens.extract 3 (3 + n)) = "hold on" := by
  intro built v tokens
  have hb : build [(none, "You")] ["Hold on!"] = .ok built := by decide +kernel
  have hv : (built.addFillers ["You know what"]).1 = v := by decide +kernel
  have hr : Reachable v := hv ▸ .extended ["You know what"] (.built hb)
  have hfiller : v.matchFillerAt tokens 1 = .ok (some 2) := by decide +kernel
  have hpast : v.matchFillerAt tokens 9 = .ok none := by decide +kernel
  have hstop : v.matchStopAt tokens 3 = .ok (some "hold on") := by decide +kernel
  refine ⟨hb, hv, hfiller, ?_, ?_, hstop, ?_⟩
  · obtain ⟨found, hfound, hsome, -⟩ := (greatest_phrases_found hr tokens 1).1
    exact (hsome 2).mp (Except.ok.inj (hfound.symm.trans hfiller))
  · obtain ⟨found, hfound, -, hnone⟩ := (greatest_phrases_found hr tokens 9).1
    exact hnone.mp (Except.ok.inj (hfound.symm.trans hpast))
  · obtain ⟨found, hfound, hsome, -⟩ := (greatest_phrases_found hr tokens 3).2
    exact (hsome "hold on").mp (Except.ok.inj (hfound.symm.trans hstop))

end BargeIn.Vocabulary
