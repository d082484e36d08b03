import BargeIn.Proofs.Lexicon.Classification
import BargeIn.Proofs.Lexicon.Listing

/-!
# Words that are added

A phrase that has been added as a filler is passed over from then on, whatever is added after it:
speech made up of just its words is filler only. The one thing that comes before it is a stop
phrase, and stop phrases are those that the vocabulary was built with.
-/

set_option autoImplicit false

namespace BargeIn

open Text

namespace Vocabulary

theorem learnAll_knows {v : Vocabulary} {batches : List (List String)} {words : List String}
    (hw : words ∈ batches) {word entry : String} (hword : word ∈ words)
    (he : normalizeEntry word = some entry) :
    (v.learnAll batches).1.isFiller entry = true ∨ (v.learnAll batches).1.isStop entry = true := by
  obtain ⟨_, hlearned, -⟩ := learnAll_learned v batches
  rw [hlearned.isFiller_iff, hlearned.isStop, named_flatten]
  cases v.isStop entry with
  | true => exact .inr rfl
  | false => exact .inl (.inr ⟨rfl, words, hw, word, hword, he⟩)

theorem learnAll_isStop {fillers : List (Option Language × String)} {stops : List String}
    {v : Vocabulary} (h : build fillers stops = .ok v) (batches : List (List String))
    (entry : String) : (v.learnAll batches).1.isStop entry = true ↔ Named stops entry := by
  obtain ⟨_, hlearned, -⟩ := learnAll_learned v batches
  rw [hlearned.isStop, build_eq_collect h]
  exact isStop_collect fillers stops entry

theorem learnAll_wellFormed {v : Vocabulary} (hv : v.WellFormed) (batches : List (List String)) :
    (v.learnAll batches).1.WellFormed := by
  induction batches generalizing v with
  | nil => exact hv
  | cons words later ih => exact ih (addFillers_wellFormed v words hv)

/-- A phrase that is known takes in all of its words. -/
theorem residual_filler {v : Vocabulary} (hv : v.WellFormed) {tokens : List String}
    (hn : tokens ≠ []) (hf : v.isFiller (joinWords tokens) = true) : v.residual tokens = [] := by
  have hwhole : Longest v.isFiller tokens tokens :=
    ⟨hn, List.prefix_refl tokens, hf, fun _ hp _ => hp.length_le⟩
  have hcut : v.Segmentation tokens [.filler tokens] := by
    refine ⟨[], (List.append_nil _).symm, ?_, rfl⟩
    rw [Segment.Fits, List.append_nil]
    exact hwhole
  rw [residual_eq, segmentation_unique (cut_segmentation hv tokens) hcut]
  rfl

end Vocabulary

namespace Classifier

open Vocabulary

def taught (c : Classifier) (batches : List (List String)) : Classifier :=
  batches.foldl (fun c words => (c.addIgnoredWords words).1) c

theorem taught_eq (c : Classifier) (batches : List (List String)) :
    c.taught batches = ⟨(c.vocabulary.learnAll batches).1, c.enabled⟩ := by
  induction batches generalizing c with
  | nil => rfl
  | cons words later ih => exact ih (c.addIgnoredWords words).1

theorem taught_isStop_iff {fillers : List (Option Language × String)} {stops : List String}
    {c : Classifier} (h : build fillers stops = .ok c.vocabulary) (batches : List (List String))
    (text : String) : ((c.taught batches).classify text).isStop = true ↔
      ∃ stop ∈ stops, tokenize stop ≠ [] ∧ tokenize stop <:+: tokenize text := by
  have hw := learnAll_wellFormed (Reachable.built h).wellFormed batches
  rw [taught_eq, classify_isStop_iff _ hw]
  simp only [learnAll_isStop h, Named, normalizeEntry_eq_some_iff]
  constructor
  · rintro ⟨run, hrun, stop, hs, hn, hjoin⟩
    have hwords : ∀ t ∈ run, IsWord t := fun t ht => tokenize_isWord text t (hrun.subset ht)
    rw [← joinWords_injective (tokenize_isWord stop) hwords hjoin] at hrun
    exact ⟨stop, hs, hn, hrun⟩
  · rintro ⟨stop, hs, hn, hrun⟩
    exact ⟨tokenize stop, hrun, stop, hs, hn, rfl⟩

/-- What is known and is no stop command is filler only. -/
theorem classify_known {c : Classifier} (hw : c.vocabulary.WellFormed) (he : c.enabled = true)
    {text entry : String} (hentry : normalizeEntry text = some entry)
    (hknown : c.vocabulary.isFiller entry = true ∨ c.vocabulary.isStop entry = true)
    (hnone : (c.classify text).isStop = false) : c.classify text = .onlyFiller := by
  obtain ⟨hn, rfl⟩ := (normalizeEntry_eq_some_iff _ _).mp hentry
  have hfiller : c.vocabulary.isFiller (joinWords (tokenize text)) = true := by
    refine hknown.resolve_right fun hs => ?_
    have hstop := (classify_isStop_iff c hw text).mpr ⟨tokenize text, List.infix_rfl, hs⟩
    exact absurd (hnone.symm.trans hstop) (by decide)
  rw [classify_of_isStop_eq_false _ _ hnone, if_pos he, residual_filler hw hn hfiller]
  rfl

theorem classify_blank (c : Classifier) {text : String} (h : tokenize text = []) :
    c.classify text = .onlyFiller := by
  rw [classify, h]
  rfl

/-- Speech is a stop command exactly if a stop phrase of those listed at the start occurs in it.
If none does, the words of any phrase that has been added are filler only. -/
theorem added_words_heard {fillers : List (Option Language × String)} {stops : List String}
    {c : Classifier} (h : build fillers stops = .ok c.vocabulary) (batches : List (List String))
    (text : String) :
    (((c.taught batches).classify text).isStop = true ↔
      ∃ stop ∈ stops, tokenize stop ≠ [] ∧ tokenize stop <:+: tokenize text) ∧
    (c.enabled = true → ((c.taught batches).classify text).isStop = false →
      ∀ words ∈ batches, ∀ word ∈ words, tokenize text = tokenize word →
        (c.taught batches).classify text = .onlyFiller) := by
  refine ⟨taught_isStop_iff h batches text, ?_⟩
  intro he hnone words hwords word hword hsame
  by_cases hblank : tokenize text = []
  · exact classify_blank _ hblank
  · have hlast := taught_eq c batches
    have hw := learnAll_wellFormed (Reachable.built h).wellFormed batches
    have hnamed : normalizeEntry text = some (joinWords (tokenize text)) :=
      (normalizeEntry_eq_some_iff _ _).mpr ⟨hblank, rfl⟩
    have hadded : normalizeEntry word = some (joinWords (tokenize text)) :=
      (normalizeEntry_eq_some_iff _ _).mpr ⟨hsame ▸ hblank, hsame ▸ rfl⟩
    have hknown : (c.taught batches).vocabulary.isFiller (joinWords (tokenize text)) = true ∨
        (c.taught batches).vocabulary.isStop (joinWords (tokenize text)) = true := by
      rw [hlast]
      exact learnAll_knows hwords hword hadded
    exact classify_known (hlast ▸ hw) (hlast ▸ he) hnamed hknown hnone

/-- Of what is added, one phrase is part of another and one has a stop phrase in it. -/
theorem added_words_heard_overlapping :
    let v : Vocabulary := ⟨[("um", none)], ["hold on"], 1, 2⟩
    let c : Classifier := ⟨v, true⟩
    let batches := [["So it is", "hold on so"], ["so", "it is not"]]
    Vocabulary.build [(none, "Um")] ["Hold on!"] = .ok v ∧
      (c.taught batches).classify "so, it is" = .onlyFiller ∧
      ((c.taught batches).classify "Hold on, so").isStop = true := by
  intro v c batches
  have hb : Vocabulary.build [(none, "Um")] ["Hold on!"] = .ok v := by decide +kernel
  have hnone : ((c.taught batches).classify "so, it is").isStop = false := by decide +kernel
  refine ⟨hb, ?_, ?_⟩
  · exact (added_words_heard hb batches "so, it is").2 rfl hnone _ List.mem_cons_self "So it is"
      List.mem_cons_self (by decide +kernel)
  · exact (added_words_heard hb batches "Hold on, so").1.mpr
      ⟨"Hold on!", List.mem_cons_self, by decide +kernel, [], ["so"], by decide +kernel⟩

end Classifier

end BargeIn
