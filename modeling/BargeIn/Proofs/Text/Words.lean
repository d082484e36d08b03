import Mathlib.Data.List.DropRight
import BargeIn.Text.Words

/-!
# Words and their join

A word of the normal form is never empty, so the normal form of a lexicon entry is never empty
either. Joining words with single spaces leaves at least one space fewer than there are words, and
splitting what was joined gives the words back.
-/

set_option autoImplicit false

namespace BargeIn.Text

theorem trim_eq_empty_iff (s : String) : trim s = "" ↔ s.toList.all isBlank = true := by
  calc trim s = ""
      ↔ trimChars s.toList = [] := by simp [trim]
    _ ↔ (s.toList.dropWhile isBlank).dropWhile isBlank = [] := by
      simp only [trimChars, List.reverse_eq_nil_iff, List.dropWhile_eq_nil_iff, List.mem_reverse]
    _ ↔ s.toList.all isBlank = true := by
      rw [List.dropWhile_idempotent, List.dropWhile_eq_nil_iff, List.all_eq_true]

theorem wordsFrom_blank (c : Char) (cs : List Char) (h : isBlank c = true) :
    wordsFrom (c :: cs) = ([], words cs) := by
  simp [wordsFrom, words, h]

theorem wordsFrom_letter (c : Char) (cs : List Char) (h : isBlank c = false) :
    wordsFrom (c :: cs) = (c :: (wordsFrom cs).1, (wordsFrom cs).2) := by
  simp [wordsFrom, h]

theorem mem_words (cs w : List Char) :
    w ∈ words cs ↔ (w ≠ [] ∧ w = (wordsFrom cs).1) ∨ w ∈ (wordsFrom cs).2 := by
  by_cases he : (wordsFrom cs).1 = []
  · simp [words, he]
  · have hw : w = (wordsFrom cs).1 → w ≠ [] := fun h => h ▸ he
    simp only [words, List.isEmpty_iff, he, if_false, List.mem_cons, and_iff_right_of_imp hw]

theorem wordsFrom_nonempty (cs : List Char) : ∀ w ∈ (wordsFrom cs).2, w ≠ [] := by
  induction cs with
  | nil => simp [wordsFrom]
  | cons c cs ih =>
    intro w hw
    by_cases hc : isBlank c = true
    · rw [wordsFrom_blank c cs hc, mem_words] at hw
      rcases hw with ⟨hn, _⟩ | hl
      · exact hn
      · exact ih w hl
    · rw [wordsFrom_letter c cs (by simpa using hc)] at hw
      exact ih w hw

theorem words_nonempty (cs : List Char) : ∀ w ∈ words cs, w ≠ [] := by
  intro w hw
  rcases (mem_words cs w).mp hw with ⟨hn, _⟩ | hl
  · exact hn
  · exact wordsFrom_nonempty cs w hl

theorem words_extended {cs cs' : List Char} {ws : List (List Char)}
    (h : wordsFrom cs' = ((wordsFrom cs).1, (wordsFrom cs).2 ++ ws)) :
    words cs' = words cs ++ ws := by
  simp only [words, h]
  split <;> rfl

theorem wordsFrom_append (cs later : List Char) {b : Char} (hb : isBlank b = true) :
    wordsFrom (cs ++ b :: later) = ((wordsFrom cs).1, (wordsFrom cs).2 ++ words later) := by
  induction cs with
  | nil => exact wordsFrom_blank b later hb
  | cons c cs ih =>
    by_cases hc : isBlank c = true
    · rw [List.cons_append, wordsFrom_blank c _ hc, wordsFrom_blank c _ hc, words_extended ih]
    · have hletter : isBlank c = false := by simpa using hc
      rw [List.cons_append, wordsFrom_letter c _ hletter, wordsFrom_letter c _ hletter, ih]

theorem words_append (cs later : List Char) {b : Char} (hb : isBlank b = true) :
    words (cs ++ b :: later) = words cs ++ words later :=
  words_extended (wordsFrom_append cs later hb)

theorem words_cons_blank {b : Char} (hb : isBlank b = true) (cs : List Char) :
    words (b :: cs) = words cs :=
  words_append [] cs hb

theorem words_cons_letter {c : Char} (hc : isBlank c = false) (cs : List Char) :
    words (c :: cs) = (c :: (wordsFrom cs).1) :: (wordsFrom cs).2 := by
  simp [words, wordsFrom_letter c cs hc]

theorem words_flatten_from (cs : List Char) :
    (words cs).flatten = (wordsFrom cs).1 ++ (wordsFrom cs).2.flatten := by
  by_cases he : (wordsFrom cs).1 = [] <;> simp [words, he]

theorem words_flatten (cs : List Char) : (words cs).flatten = cs.filter fun c => !isBlank c := by
  induction cs with
  | nil => rfl
  | cons c cs ih =>
    by_cases hc : isBlank c = true
    · rw [words_cons_blank hc, ih, List.filter_cons_of_neg (by simp [hc])]
    · have hletter : isBlank c = false := by simpa using hc
      rw [words_cons_letter hletter, List.filter_cons_of_pos (by simp [hletter]), ← ih,
        words_flatten_from]
      rfl

theorem words_nonblank (cs : List Char) : ∀ w ∈ words cs, ∀ c ∈ w, isBlank c = false := by
  intro w hw c hc
  have hmem : c ∈ (words cs).flatten := List.mem_flatten_of_mem hw hc
  rw [words_flatten, List.mem_filter] at hmem
  simpa using hmem.2

theorem words_ne {cs later : List Char} {c : Char} (h : cs.Sublist later)
    (hc : isBlank c = false) : words cs ≠ words (c :: later) := by
  intro heq
  have hflat := congrArg List.flatten heq
  rw [words_flatten, words_flatten, List.filter_cons_of_pos (by simp [hc])] at hflat
  have hlen := congrArg List.length hflat
  have hle := (h.filter fun c => !isBlank c).length_le
  rw [List.length_cons] at hlen
  omega

theorem tokenize_nonempty (s : String) : ∀ t ∈ tokenize s, t ≠ "" := by
  intro t ht
  obtain ⟨w, hw, rfl⟩ := List.mem_map.mp ht
  have hn := words_nonempty _ w hw
  simpa using hn

theorem normalizeEntry_eq_some_iff (s entry : String) :
    normalizeEntry s = some entry ↔ tokenize s ≠ [] ∧ joinWords (tokenize s) = entry := by
  unfold normalizeEntry
  cases h : tokenize s <;> simp

@[simp] theorem joinWords_singleton (t : String) : joinWords [t] = t :=
  String.intercalate_singleton

theorem joinWords_cons (t : String) (ts : List String) (h : ts ≠ []) :
    joinWords (t :: ts) = t ++ " " ++ joinWords ts :=
  String.intercalate_cons_of_ne_nil h

theorem joinWords_ne_empty (ts : List String) (hn : ts ≠ []) (hw : ∀ t ∈ ts, t ≠ "") :
    joinWords ts ≠ "" := by
  cases ts with
  | nil => exact absurd rfl hn
  | cons t ts =>
    by_cases h : ts = []
    · subst h
      simpa using hw t (by simp)
    · rw [joinWords_cons t ts h]
      simp

theorem joinWords_spaces (ts : List String) : ts.length ≤ (joinWords ts).toList.count ' ' + 1 := by
  induction ts with
  | nil => simp
  | cons t ts ih =>
    by_cases h : ts = []
    · simp [h]
    · simp only [joinWords_cons t ts h, String.toList_append, List.count_append, List.length_cons]
      have hs : " ".toList.count ' ' = 1 := by decide
      omega

def spaced (ws : List (List Char)) : List Char :=
  ws.flatMap (' ' :: ·)

theorem spaced_cons (w : List Char) (ws : List (List Char)) :
    spaced (w :: ws) = ' ' :: (w ++ spaced ws) := by
  simp [spaced]

theorem joinWords_toList (w : List Char) (ws : List (List Char)) :
    (joinWords ((w :: ws).map String.ofList)).toList = w ++ spaced ws := by
  induction ws generalizing w with
  | nil => simp [spaced]
  | cons w' ws ih =>
    rw [List.map_cons, joinWords_cons _ _ (by simp), String.toList_append, String.toList_append,
      ih, spaced_cons]
    simp

theorem words_letters {w : List Char} (hn : w ≠ []) (hw : ∀ c ∈ w, isBlank c = false) :
    words w = [w] := by
  have hfrom : wordsFrom w = (w, []) := by
    clear hn
    induction w with
    | nil => rfl
    | cons c w ih =>
      rw [wordsFrom_letter c w (hw c List.mem_cons_self),
        ih fun d hd => hw d (List.mem_cons_of_mem c hd)]
  simp [words, hfrom, hn]

theorem words_spaced (cs : List Char) {ws : List (List Char)} (hn : ∀ w ∈ ws, w ≠ [])
    (hw : ∀ w ∈ ws, ∀ c ∈ w, isBlank c = false) : words (cs ++ spaced ws) = words cs ++ ws := by
  induction ws generalizing cs with
  | nil => simp [spaced]
  | cons w ws ih =>
    have hspace : isBlank ' ' = true := by decide
    have hword := words_letters (hn w List.mem_cons_self) (hw w List.mem_cons_self)
    have hlater := ih w (fun w' hw' => hn w' (List.mem_cons_of_mem w hw'))
      fun w' hw' => hw w' (List.mem_cons_of_mem w hw')
    rw [spaced_cons, words_append cs _ hspace, hlater, hword]
    rfl

/-- Words that are joined are found again. -/
theorem words_joined {w : List Char} {ws : List (List Char)} (hn : ∀ w' ∈ w :: ws, w' ≠ [])
    (hw : ∀ w' ∈ w :: ws, ∀ c ∈ w', isBlank c = false) : words (w ++ spaced ws) = w :: ws := by
  rw [words_spaced w (fun w' hw' => hn w' (List.mem_cons_of_mem w hw'))
    fun w' hw' => hw w' (List.mem_cons_of_mem w hw')]
  rw [words_letters (hn w List.mem_cons_self) (hw w List.mem_cons_self)]
  rfl

def IsWord (t : String) : Prop := t ≠ "" ∧ ∀ c ∈ t.toList, isBlank c = false

theorem tokenize_isWord (s : String) : ∀ t ∈ tokenize s, IsWord t := by
  intro t ht
  refine ⟨tokenize_nonempty s t ht, ?_⟩
  obtain ⟨w, hw, rfl⟩ := List.mem_map.mp ht
  simpa using words_nonblank _ w hw

def splitWords (s : String) : List String :=
  (words s.toList).map String.ofList

theorem splitWords_joinWords {ts : List String} (h : ∀ t ∈ ts, IsWord t) :
    splitWords (joinWords ts) = ts := by
  have hlists : (ts.map String.toList).map String.ofList = ts := by simp
  have hn : ∀ w ∈ ts.map String.toList, w ≠ [] := by
    intro w hw
    obtain ⟨t, ht, rfl⟩ := List.mem_map.mp hw
    simpa using (h t ht).1
  have hw : ∀ w ∈ ts.map String.toList, ∀ c ∈ w, isBlank c = false := by
    intro w hw
    obtain ⟨t, ht, rfl⟩ := List.mem_map.mp hw
    exact (h t ht).2
  rw [← hlists, splitWords]
  cases hts : ts.map String.toList with
  | nil => rfl
  | cons w ws => rw [joinWords_toList, words_joined (hts ▸ hn) (hts ▸ hw)]

theorem joinWords_injective {ts ts' : List String} (h : ∀ t ∈ ts, IsWord t)
    (h' : ∀ t ∈ ts', IsWord t) (hjoin : joinWords ts = joinWords ts') : ts = ts' := by
  rw [← splitWords_joinWords h, hjoin, splitWords_joinWords h']

theorem joinWords_count {ts : List String} (hn : ts ≠ []) (h : ∀ t ∈ ts, IsWord t) :
    (joinWords ts).toList.count ' ' + 1 = ts.length := by
  have hword : ∀ t, IsWord t → t.toList.count ' ' = 0 := by
    intro t ht
    rw [List.count_eq_zero]
    intro hspace
    exact absurd (ht.2 ' ' hspace) (by decide)
  induction ts with
  | nil => exact absurd rfl hn
  | cons t ts ih =>
    have ht := hword t (h t List.mem_cons_self)
    cases ts with
    | nil => simp [ht]
    | cons next ts =>
      have hlater := ih (List.cons_ne_nil next ts) fun t' ht' => h t' (List.mem_cons_of_mem t ht')
      have hs : " ".toList.count ' ' = 1 := by decide
      rw [joinWords_cons t _ (List.cons_ne_nil next ts)]
      simp only [String.toList_append, List.count_append, List.length_cons] at hlater ⊢
      omega

theorem splitWords_entry {s entry : String} (h : normalizeEntry s = some entry) :
    splitWords entry = tokenize s := by
  obtain ⟨-, rfl⟩ := (normalizeEntry_eq_some_iff s entry).mp h
  exact splitWords_joinWords (tokenize_isWord s)

theorem normalizeEntry_ne_empty (s entry : String) (h : normalizeEntry s = some entry) :
    entry ≠ "" := by
  obtain ⟨hn, rfl⟩ := (normalizeEntry_eq_some_iff s entry).mp h
  exact joinWords_ne_empty _ hn (tokenize_nonempty s)

end BargeIn.Text
