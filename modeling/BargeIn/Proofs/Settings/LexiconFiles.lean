import BargeIn.Proofs.Lexicon.Listing
import BargeIn.Settings.Load
import BargeIn.Settings.LexiconFile

/-!
# Lexicon files in any order

The entries of a lexicon file are appended to what is configured, in lists of their own for each
language. So the order in which files are merged can be seen in the settings but not in what is
made of them, and neither can a file that is merged twice. The flat variables set what files leave
alone.
-/

set_option autoImplicit false

namespace BargeIn

open Vocabulary

def PerLanguage.words (p : PerLanguage (Option (List String))) (l : Language) : List String :=
  (p.get l).getD []

/-! ## Settings with the same words -/

namespace Lexicon.Config

def baseFillers (c : Config) : List (Option Language × String) :=
  match c.ignoredWords with
  | some words => words.map fun word => (none, word)
  | none => taggedFillers c.languages

theorem fillerEntries_eq (c : Config) : c.fillerEntries =
    c.baseFillers ++ Language.all.flatMap fun l => (c.fillers.words l).map (some l, ·) := by
  rw [fillerEntries, PerLanguage.toList, List.flatMap_map]
  rfl

/-- The settings differ at most in the order of further words and in how often each comes. -/
structure SameWords (c d : Config) : Prop where
  enabled : c.enabled = d.enabled
  baseFillers : c.baseFillers = d.baseFillers
  stopWords : c.stopWords = d.stopWords
  fillers : ∀ l entry, Named (c.fillers.words l) entry ↔ Named (d.fillers.words l) entry
  extraStopWords : ∀ entry, Named c.extraStopWords entry ↔ Named d.extraStopWords entry

theorem SameWords.interchangeable {c d : Config} (h : c.SameWords d) :
    Classifier.Interchangeable c.classifier d.classifier := by
  have hfillers : ∀ e, firstListed c.fillerEntries e = firstListed d.fillerEntries e := by
    intro e
    rw [fillerEntries_eq, fillerEntries_eq, firstListed_append, firstListed_append, h.baseFillers]
    exact congrArg _ (firstListed_flatMap (fun l => firstListed_tagged (h.fillers l e) _) _)
  have hstops : ∀ e, Named c.stopEntries e ↔ Named d.stopEntries e := by
    intro e
    rw [stopEntries, stopEntries, named_append, named_append, h.stopWords, h.extraStopWords]
  rw [classifier, classifier, h.enabled]
  exact Classifier.build_interchangeable hfillers hstops d.enabled

end Lexicon.Config

/-! ## Merging -/

namespace LexiconFile

def mergeAll (files : List LexiconFile) (c : Lexicon.Config) : Lexicon.Config :=
  files.foldl (fun c file => file.merge c) c

theorem merge_words (file : LexiconFile) (c : Lexicon.Config) (l : Language) :
    (file.merge c).fillers.words l = c.fillers.words l ++ file.fillers.words l := by
  have hextend : ∀ words further : Option (List String),
      (extend words further).getD [] = words.getD [] ++ further.getD [] := by
    intro words further
    cases further with
    | none => exact (List.append_nil _).symm
    | some more => rfl
  cases l <;> exact hextend _ _

/-- What the settings list after some files have been merged. -/
theorem mergeAll_lists (files : List LexiconFile) (c : Lexicon.Config) :
    let merged := mergeAll files c
    (∀ l, merged.fillers.words l = c.fillers.words l ++ files.flatMap (·.fillers.words l)) ∧
      merged.extraStopWords = c.extraStopWords ++ files.flatMap (·.stopWords) ∧
      { merged with fillers := c.fillers, extraStopWords := c.extraStopWords } = c := by
  induction files generalizing c with
  | nil => exact ⟨fun l => (List.append_nil _).symm, (List.append_nil _).symm, rfl⟩
  | cons file files ih =>
    obtain ⟨hfillers, hstops, hrest⟩ := ih (file.merge c)
    refine ⟨fun l => ?_, ?_, ?_⟩
    · rw [List.flatMap_cons, ← List.append_assoc, ← merge_words]
      exact hfillers l
    · rw [List.flatMap_cons, ← List.append_assoc]
      exact hstops
    · exact congrArg (fun d : Lexicon.Config =>
        { d with fillers := c.fillers, extraStopWords := c.extraStopWords }) hrest

theorem mergeAll_sameWords {files files' : List LexiconFile}
    (h : ∀ file, file ∈ files ↔ file ∈ files') (c : Lexicon.Config) :
    (mergeAll files c).SameWords (mergeAll files' c) := by
  obtain ⟨hfillers, hstops, hrest⟩ := mergeAll_lists files c
  obtain ⟨hfillers', hstops', hrest'⟩ := mergeAll_lists files' c
  have hlisted : ∀ (words : LexiconFile → List String) (entry : String),
      Named (files.flatMap words) entry ↔ Named (files'.flatMap words) entry := by
    intro words entry
    apply named_congr
    simp only [List.mem_flatMap, h, implies_true]
  have henabled := congrArg Lexicon.Config.enabled (hrest.trans hrest'.symm)
  have hbase := congrArg Lexicon.Config.baseFillers (hrest.trans hrest'.symm)
  have hstopWords := congrArg Lexicon.Config.stopWords (hrest.trans hrest'.symm)
  refine ⟨henabled, hbase, hstopWords, fun l entry => ?_, fun entry => ?_⟩
  · rw [hfillers, hfillers', named_append, named_append, hlisted]
  · rw [hstops, hstops', named_append, named_append, hlisted]

theorem apply_mergeAll (files : List LexiconFile) (o : FlatOverrides) (c : Lexicon.Config) :
    mergeAll files (o.apply c) = o.apply (mergeAll files c) := by
  induction files generalizing c with
  | nil => rfl
  | cons file files ih => exact ih (file.merge c)

theorem mergeAll_append (files later : List LexiconFile) (c : Lexicon.Config) :
    mergeAll (files ++ later) c = mergeAll later (mergeAll files c) :=
  List.foldl_append

/-- Two lexicon files make the same of a lexicon in either order, and one that is merged again adds
nothing; the flat variables can be applied at any time before, between or after. -/
theorem lexicon_files_commute (c : Lexicon.Config) (a b : LexiconFile) (o : FlatOverrides) :
    Classifier.Interchangeable (mergeAll [a, b] c).classifier (mergeAll [b, a] c).classifier ∧
    Classifier.Interchangeable (mergeAll [a, b] c).classifier
      (mergeAll [a, b, a] c).classifier ∧
    ∀ before after : List LexiconFile,
      mergeAll after (o.apply (mergeAll before c)) = o.apply (mergeAll (before ++ after) c) := by
  refine ⟨?_, ?_, fun before after => ?_⟩
  · exact (mergeAll_sameWords (by simp [or_comm]) c).interchangeable
  · exact (mergeAll_sameWords (by simp; tauto) c).interchangeable
  · rw [apply_mergeAll, mergeAll_append]

example :
    let first : LexiconFile := { fillers := { PerLanguage.const none with hindi := some ["Arre!"] } }
    let second : LexiconFile :=
      { fillers := { PerLanguage.const none with english := some ["arre"] } }
    let c : Lexicon.Config := { ignoredWords := some ["uh"], stopWords := some ["stop"] }
    let tag (files : List LexiconFile) := (mergeAll files c).classifier.map fun k =>
      k.vocabulary.fillerLanguage "arre"
    tag [first, second] = .ok (some .english) ∧ tag [second, first] = .ok (some .english) := by
  decide +kernel

end LexiconFile

end BargeIn
