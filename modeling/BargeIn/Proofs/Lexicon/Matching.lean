import BargeIn.Lexicon.Vocabulary
import BargeIn.Proofs.Text.Words

/-!
# The longest phrase at the front

The search for a phrase tries windows from the bound downwards. As long as the bound is no less
than the length of any known phrase it cuts nothing off: what is found is the longest phrase of
whatever length, and nothing is found only where no phrase begins.
-/

set_option autoImplicit false

namespace BargeIn.Vocabulary

open Text

/-- The run is the longest of the known phrases with which the tokens begin. -/
structure Longest (known : String → Bool) (run tokens : List String) : Prop where
  nonempty : run ≠ []
  begins : run <+: tokens
  isKnown : known (joinWords run) = true
  longest : ∀ other, other <+: tokens → known (joinWords other) = true →
    other.length ≤ run.length

def NoneBegins (known : String → Bool) (tokens : List String) : Prop :=
  ∀ run, run ≠ [] → run <+: tokens → known (joinWords run) = false

def Bounded (known : String → Bool) (bound : Nat) : Prop :=
  ∀ entry, known entry = true → phraseLength entry ≤ bound

theorem run_length (run : List String) : run.length ≤ phraseLength (joinWords run) :=
  joinWords_spaces run

theorem Bounded.run_length {known : String → Bool} {bound : Nat} (hb : Bounded known bound)
    (run : List String) (hk : known (joinWords run) = true) : run.length ≤ bound :=
  Nat.le_trans (Vocabulary.run_length run) (hb _ hk)

theorem Longest.unique {known : String → Bool} {a b tokens : List String}
    (ha : Longest known a tokens) (hb : Longest known b tokens) : a = b := by
  have hab := hb.longest a ha.begins ha.isKnown
  have hba := ha.longest b hb.begins hb.isKnown
  have hp := List.prefix_of_prefix_length_le ha.begins hb.begins hab
  exact hp.eq_of_length_le hba

theorem Longest.not_noneBegins {known : String → Bool} {run tokens : List String}
    (hl : Longest known run tokens) : ¬ NoneBegins known tokens := by
  intro h
  have hoff := h run hl.nonempty hl.begins
  rw [hl.isKnown] at hoff
  exact absurd hoff (by decide)

theorem longestMatch_some (known : String → Bool) (tokens : List String) (bound n : Nat)
    (h : longestMatch known tokens bound = some n) :
    0 < n ∧ n ≤ tokens.length ∧ known (joinWords (tokens.take n)) = true ∧
      ∀ m, n < m → m ≤ bound → m ≤ tokens.length →
        known (joinWords (tokens.take m)) = false := by
  induction bound with
  | zero => simp [longestMatch] at h
  | succ bound ih =>
    rw [longestMatch] at h
    split at h
    case isTrue hk =>
      simp only [Bool.and_eq_true, decide_eq_true_eq] at hk
      obtain rfl : bound + 1 = n := by simpa using h
      exact ⟨by omega, hk.1, hk.2, fun m hm hle => absurd hle (by omega)⟩
    case isFalse hk =>
      obtain ⟨hpos, hle, hn, hmax⟩ := ih h
      refine ⟨hpos, hle, hn, ?_⟩
      intro m hm hb hl
      by_cases hm' : m = bound + 1
      · subst hm'
        simpa [Nat.lt_of_succ_le hl] using hk
      · exact hmax m hm (by omega) hl

theorem longestMatch_none (known : String → Bool) (tokens : List String) (bound : Nat)
    (h : longestMatch known tokens bound = none) :
    ∀ n, 0 < n → n ≤ bound → n ≤ tokens.length → known (joinWords (tokens.take n)) = false := by
  induction bound with
  | zero => exact fun n hpos hb => absurd hb (by omega)
  | succ bound ih =>
    rw [longestMatch] at h
    split at h
    case isTrue => simp at h
    case isFalse hk =>
      intro n hpos hb hl
      by_cases hn : n = bound + 1
      · subst hn
        simpa [Nat.lt_of_succ_le hl] using hk
      · exact ih h n hpos (by omega) hl

theorem longestMatch_longest {known : String → Bool} {bound : Nat} (hb : Bounded known bound)
    {tokens : List String} {n : Nat} (h : longestMatch known tokens bound = some n) :
    Longest known (tokens.take n) tokens ∧ n ≤ tokens.length := by
  obtain ⟨hpos, hle, hn, hmax⟩ := longestMatch_some known tokens bound n h
  have hlen : (tokens.take n).length = n := List.length_take_of_le hle
  refine ⟨⟨?_, List.take_prefix n tokens, hn, fun other hp hk => ?_⟩, hle⟩
  · exact List.ne_nil_of_length_pos (by omega)
  · rw [hlen]
    apply Nat.le_of_not_lt
    intro hlt
    have hoff := hmax other.length (by omega) (hb.run_length other hk) hp.length_le
    rw [← List.prefix_iff_eq_take.mp hp, hk] at hoff
    exact absurd hoff (by decide)

theorem longestMatch_eq_none_iff {known : String → Bool} {bound : Nat}
    (hb : Bounded known bound) (tokens : List String) :
    longestMatch known tokens bound = none ↔ NoneBegins known tokens := by
  constructor
  · intro h run hn hp
    apply Bool.eq_false_iff.mpr
    intro hk
    have hoff := longestMatch_none known tokens bound h run.length (List.length_pos_iff.mpr hn)
      (hb.run_length run hk) hp.length_le
    rw [← List.prefix_iff_eq_take.mp hp, hk] at hoff
    exact absurd hoff (by decide)
  · intro h
    cases hm : longestMatch known tokens bound with
    | none => rfl
    | some n => exact absurd h (longestMatch_longest hb hm).1.not_noneBegins

theorem longestMatch_eq_some_iff {known : String → Bool} {bound : Nat}
    (hb : Bounded known bound) (tokens : List String) (n : Nat) :
    longestMatch known tokens bound = some n ↔
      ∃ run, Longest known run tokens ∧ run.length = n := by
  constructor
  · intro h
    obtain ⟨hl, hle⟩ := longestMatch_longest hb h
    exact ⟨_, hl, List.length_take_of_le hle⟩
  · rintro ⟨run, hl, rfl⟩
    cases hm : longestMatch known tokens bound with
    | none => exact absurd ((longestMatch_eq_none_iff hb tokens).mp hm) hl.not_noneBegins
    | some m =>
      obtain ⟨hl', hle⟩ := longestMatch_longest hb hm
      rw [hl.unique hl', List.length_take_of_le hle]

end BargeIn.Vocabulary
