import BargeIn.Proofs.Lexicon.Building
import BargeIn.Proofs.Lexicon.Teaching
import BargeIn.Proofs.Policy.Durations
import BargeIn.Proofs.Settings.LexiconFiles

/-!
# Lexicons under strict checks

Where settings are checked strictly, a lexicon without languages needs a list of its own in place
of the built-in fillers. Whether that list has any word in it is not checked, and this is the one
way for a vocabulary without fillers to be accepted.
-/

set_option autoImplicit false

namespace BargeIn

open Text Vocabulary

namespace Vocabulary

theorem fillerCount_pos_iff (v : Vocabulary) :
    0 < v.fillerCount ↔ ∃ entry, v.isFiller entry = true := by
  unfold fillerCount isFiller
  cases v.fillers with
  | nil => simp
  | cons filler later => exact ⟨fun _ => ⟨filler.1, by simp⟩, fun _ => by simp⟩

theorem collect_filled_iff (fillers : List (Option Language × String)) (stops : List String) :
    0 < (collect fillers stops).fillerCount ↔ ∃ word ∈ fillers.map (·.2), tokenize word ≠ [] := by
  rw [fillerCount_pos_iff]
  simp only [isFiller_collect, Named, normalizeEntry_eq_some_iff]
  constructor
  · rintro ⟨-, word, hword, hn, -⟩
    exact ⟨word, hword, hn⟩
  · rintro ⟨word, hword, hn⟩
    exact ⟨_, word, hword, hn, rfl⟩

theorem residual_eq_nil {v : Vocabulary} (hv : v.WellFormed) {tokens : List String}
    (hn : tokens ≠ []) (h : v.residual tokens = []) :
    ∃ run, run <+: tokens ∧ v.isFiller (joinWords run) = true := by
  cases tokens with
  | nil => exact absurd rfl hn
  | cons t ts =>
    cases hm : v.matchFiller (t :: ts) with
    | none => simp [residual, residualFrom, hm] at h
    | some n =>
      obtain ⟨run, hl, -⟩ := (matchFiller_eq_some_iff hv _ n).mp hm
      exact ⟨run, hl.begins, hl.isKnown⟩

end Vocabulary

namespace Classifier

variable {fillers : List (Option Language × String)} {stops : List String} {c : Classifier}

theorem built_isStop_iff (h : build fillers stops = .ok c.vocabulary) (text : String) :
    (c.classify text).isStop = true ↔
      ∃ stop ∈ stops, tokenize stop ≠ [] ∧ tokenize stop <:+: tokenize text :=
  taught_isStop_iff h [] text

theorem single_not_stop (h : build fillers stops = .ok c.vocabulary) {word t : String}
    (hword : word ∈ fillers.map (·.2)) (ht : tokenize word = [t]) :
    (c.classify word).isStop = false := by
  rw [← Bool.not_eq_true, built_isStop_iff h]
  rintro ⟨stop, hstop, hn, hin⟩
  rw [ht] at hin
  have hsame : tokenize word = tokenize stop := by
    rw [ht]
    exact (hin.eq_of_length_le (List.length_pos_iff.mpr hn)).symm
  exact (build_eq_ok_iff fillers stops).mp ⟨_, h⟩
    (named_both.mpr ⟨word, hword, stop, hstop, hsame ▸ hn, hsame⟩)

/-- Speech that is filler only has one of the listed fillers in it, and then there is one that is
heard as such itself. -/
theorem onlyFiller_iff (h : build fillers stops = .ok c.vocabulary) (he : c.enabled = true) :
    (∃ text, tokenize text ≠ [] ∧ c.classify text = .onlyFiller) ↔
      ∃ word ∈ fillers.map (·.2), tokenize word ≠ [] ∧ (c.classify word).isStop = false := by
  have hw := (Reachable.built h).wellFormed
  have hfiller : ∀ entry, c.vocabulary.isFiller entry = true ↔ Named (fillers.map (·.2)) entry :=
    fun entry => by rw [build_eq_collect h, isFiller_collect]
  constructor
  · rintro ⟨text, hn, htext⟩
    have hnone : (c.classify text).isStop = false := by
      rw [htext]
      rfl
    have hleft : c.vocabulary.residual (tokenize text) = [] := by
      rw [classify_of_isStop_eq_false c text hnone, if_pos he, Classification.ofWords] at htext
      by_contra hsome
      rw [if_neg hsome] at htext
      cases htext
    obtain ⟨run, hrun, hknown⟩ := residual_eq_nil hw hn hleft
    obtain ⟨word, hword, hentry⟩ := (hfiller _).mp hknown
    have hsame : tokenize word = run := by
      rw [← splitWords_entry hentry]
      exact splitWords_joinWords fun t ht => tokenize_isWord text t (hrun.subset ht)
    refine ⟨word, hword, ((normalizeEntry_eq_some_iff _ _).mp hentry).1, ?_⟩
    -- What occurs in the filler occurs in the speech.
    rw [← Bool.not_eq_true, built_isStop_iff h] at hnone ⊢
    rintro ⟨stop, hstop, hn, hin⟩
    exact hnone ⟨stop, hstop, hn, (hsame ▸ hin).trans hrun.isInfix⟩
  · rintro ⟨word, hword, hn, hnone⟩
    have hentry : normalizeEntry word = some (joinWords (tokenize word)) :=
      (normalizeEntry_eq_some_iff _ _).mpr ⟨hn, rfl⟩
    exact ⟨word, hn, classify_known hw he hentry (.inl ((hfiller _).mpr ⟨word, hword, hentry⟩))
      hnone⟩

end Classifier

namespace Lexicon

theorem builtin_single (l : Language) : ∃ word ∈ builtinFillers l, tokenize word = [word] := by
  cases l <;> decide +kernel

namespace Config

def listed (c : Config) : List String :=
  c.fillerEntries.map (·.2)

/-- The built-in fillers are replaced by a list of blanks, and there are only blanks besides. -/
def Blanked (c : Config) : Prop :=
  ∃ words, c.ignoredWords = some words ∧ (∀ word ∈ words, tokenize word = []) ∧
    ∀ l, ∀ word ∈ c.fillers.words l, tokenize word = []

theorem mem_listed (c : Config) (word : String) :
    word ∈ c.listed ↔ word ∈ c.baseFillers.map (·.2) ∨ ∃ l, word ∈ c.fillers.words l := by
  have hlanguage : ∀ l, l ∈ Language.all := fun l => by cases l <;> decide
  simp [listed, fillerEntries_eq, hlanguage]

theorem builtin_listed {c : Config} (hwords : c.ignoredWords = none) {l : Language}
    (hl : l ∈ c.languages) {word : String} (hword : word ∈ builtinFillers l) :
    word ∈ c.listed := by
  refine (mem_listed c word).mpr (.inl ?_)
  simp only [baseFillers, hwords, taggedFillers, List.map_flatMap, List.map_map,
    List.mem_flatMap]
  exact ⟨l, hl, by simpa using hword⟩

theorem blanked_iff {c : Config} (h : c.languages ≠ [] ∨ c.ignoredWords.isSome = true) :
    c.Blanked ↔ ¬ ∃ word ∈ c.listed, tokenize word ≠ [] := by
  simp only [not_exists, not_and, not_not]
  cases hwords : c.ignoredWords with
  | none =>
    have hlanguages : c.languages ≠ [] := h.resolve_right (by simp [hwords])
    obtain ⟨l, hl⟩ := List.exists_mem_of_ne_nil _ hlanguages
    obtain ⟨word, hword, htokens⟩ := builtin_single l
    refine ⟨fun ⟨_, hsome, _⟩ => ?_, fun hblank => ?_⟩
    · rw [hwords] at hsome
      cases hsome
    · have hnone := hblank word (builtin_listed hwords hl hword)
      rw [htokens] at hnone
      cases hnone
  | some words =>
    have hbase : c.baseFillers.map (·.2) = words := by
      simp [baseFillers, hwords, Function.comp_def]
    simp only [mem_listed, hbase, Blanked, hwords, Option.some.injEq, exists_eq_left']
    constructor
    · rintro ⟨hown, hfurther⟩ word (hword | ⟨l, hword⟩)
      · exact hown word hword
      · exact hfurther l word hword
    · intro hblank
      exact ⟨fun word hword => hblank word (.inl hword),
        fun l word hword => hblank word (.inr ⟨l, hword⟩)⟩

theorem classifier_built {c : Config} {k : Classifier} (h : c.classifier = .ok k) :
    build c.fillerEntries c.stopEntries = .ok k.vocabulary ∧ k.enabled = c.enabled := by
  rw [classifier] at h
  cases hbuild : build c.fillerEntries c.stopEntries with
  | error ambiguity =>
    rw [hbuild] at h
    cases h
  | ok v =>
    rw [hbuild] at h
    obtain rfl := Except.ok.inj h
    exact ⟨rfl, rfl⟩

end Config

end Lexicon

namespace Settings

theorem validate_eq_ok_iff (s : Settings) : s.validate = .ok () ↔
    s.interruption.validate = .ok () ∧ s.checkLexicon = .ok () ∧ s.checkLogLevel = .ok () := by
  unfold validate
  rw [Policy.Config.bind_eq_ok_iff, Policy.Config.bind_eq_ok_iff]

theorem checkLexicon_eq_ok_iff (s : Settings) : s.checkLexicon = .ok () ↔
    (s.environment.isStrict = true →
      s.lexicon.languages ≠ [] ∨ s.lexicon.ignoredWords.isSome = true) := by
  unfold checkLexicon
  cases s.environment.isStrict <;> cases s.lexicon.languages <;>
    cases s.lexicon.ignoredWords <;> simp

/-- A vocabulary that is accepted under strict checks has a filler, unless the built-in ones are
replaced by blanks. Some speech is filler only exactly if some listed filler has no stop phrase in
it, and of the built-in ones some never have. -/
theorem strict_lexicon_filled (s : Settings) (hstrict : s.environment.isStrict = true)
    (hvalid : s.validate = .ok ()) {k : Classifier} (hk : s.lexicon.classifier = .ok k) :
    (0 < k.vocabulary.fillerCount ↔ ¬ s.lexicon.Blanked) ∧
    (s.lexicon.enabled = true →
      ((∃ text, tokenize text ≠ [] ∧ k.classify text = .onlyFiller) ↔
        ∃ word ∈ s.lexicon.listed, tokenize word ≠ [] ∧ (k.classify word).isStop = false) ∧
      (s.lexicon.ignoredWords = none →
        ∃ text, tokenize text ≠ [] ∧ k.classify text = .onlyFiller)) := by
  obtain ⟨-, hlexicon, -⟩ := (validate_eq_ok_iff s).mp hvalid
  have hlisted := (checkLexicon_eq_ok_iff s).mp hlexicon hstrict
  obtain ⟨hbuild, henabled⟩ := Lexicon.Config.classifier_built hk
  constructor
  · rw [Lexicon.Config.blanked_iff hlisted, not_not, build_eq_collect hbuild, collect_filled_iff]
    rfl
  · intro he
    have hheard := Classifier.onlyFiller_iff hbuild (henabled.trans he)
    refine ⟨hheard, fun hwords => hheard.mpr ?_⟩
    have hlanguages : s.lexicon.languages ≠ [] := hlisted.resolve_right (by simp [hwords])
    obtain ⟨l, hl⟩ := List.exists_mem_of_ne_nil _ hlanguages
    obtain ⟨word, hword, htokens⟩ := Lexicon.builtin_single l
    have hmem : word ∈ s.lexicon.listed := Lexicon.Config.builtin_listed hwords hl hword
    exact ⟨word, hmem, htokens ▸ List.cons_ne_nil word [],
      Classifier.single_not_stop hbuild hmem htokens⟩

/-- The one filler has a stop phrase in it, so it is accepted and never heard. -/
theorem strict_lexicon_filled_unheard :
    let s : Settings := { environment := .staging,
                          lexicon := { ignoredWords := some ["...", "Hold on, please"] } }
    ∃ k, s.validate = .ok () ∧ s.lexicon.classifier = .ok k ∧ 0 < k.vocabulary.fillerCount ∧
      ¬ ∃ text, tokenize text ≠ [] ∧ k.classify text = .onlyFiller := by
  intro s
  have hvalid : s.validate = .ok () := by decide +kernel
  have hk : s.lexicon.classifier =
      .ok ⟨⟨[("hold on please", none)], Lexicon.builtinStops, 3, 2⟩, true⟩ := by decide +kernel
  obtain ⟨hfilled, hheard⟩ := strict_lexicon_filled s rfl hvalid hk
  refine ⟨_, hvalid, hk, hfilled.mpr ?_, ?_⟩
  · rintro ⟨words, hwords, hblank, -⟩
    obtain rfl := Option.some.inj hwords
    exact absurd (hblank "Hold on, please" (by decide)) (by decide +kernel)
  · rw [(hheard rfl).1]
    decide +kernel

/-- An empty list in place of the built-in fillers is accepted, and then every word that is no stop
command is meaningful. -/
theorem strict_lexicon_unfilled :
    let s : Settings := { environment := .production, lexicon := { ignoredWords := some [] } }
    s.environment.isStrict = true ∧ s.lexicon.enabled = true ∧ s.validate = .ok () ∧
      ∃ k, s.lexicon.classifier = .ok k ∧ k.vocabulary.fillerCount = 0 ∧
        k.classify "umm" = .meaningful ["umm"] := by
  intro s
  have hk : s.lexicon.classifier = .ok ⟨⟨[], Lexicon.builtinStops, 0, 2⟩, true⟩ := by
    decide +kernel
  exact ⟨rfl, rfl, by decide +kernel, _, hk, rfl, by decide +kernel⟩

end Settings

end BargeIn
