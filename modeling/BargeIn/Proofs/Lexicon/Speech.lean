import BargeIn.Proofs.Lexicon.Listing
import BargeIn.Proofs.Text.Spacing

/-!
# Speech in normal form

Speech that has been normalized is classified as before, and the phrases that a vocabulary lists
are phrases in normal form. Two things that look as safe are not: a listed phrase may begin with a
mark that is lost when the phrase is read again, and the words on the two sides of a space can run
together or swap a mark.
-/

set_option autoImplicit false

namespace BargeIn

open Text

namespace Vocabulary

theorem Reachable.filler_named {v : Vocabulary} (hv : v.Reachable) {entry : String}
    (he : v.isFiller entry = true) : ∃ text, normalizeEntry text = some entry := by
  induction hv with
  | @built fillers stops v h =>
    rw [build_eq_collect h, isFiller_collect] at he
    obtain ⟨text, -, htext⟩ := he
    exact ⟨text, htext⟩
  | @extended v words _ ih =>
    obtain ⟨new, hlearned, -⟩ := addFillers_learned v words
    rcases (hlearned.isFiller_iff entry).mp he with hold | ⟨-, text, -, hnamed⟩
    · exact ih hold
    · exact ⟨text, hnamed⟩

theorem mem_fillerEntries (v : Vocabulary) (entry : String) :
    entry ∈ v.fillerEntries ↔ v.isFiller entry = true := by
  rw [isFiller_iff, fillerEntries, sortEntries, List.mem_mergeSort]

theorem addFillers_eq_iff (v : Vocabulary) (words : List String) :
    v.addFillers words = (v, 0) ↔
      ∀ entry, Named words entry → v.isFiller entry = true ∨ v.isStop entry = true := by
  refine ⟨fun h entry hn => ?_, addFillers_known⟩
  obtain ⟨new, hlearned, hcount⟩ := addFillers_learned v words
  rw [h] at hcount
  obtain rfl := List.eq_nil_of_length_eq_zero hcount.symm
  by_contra hunknown
  obtain ⟨hf, hs⟩ := not_or.mp hunknown
  have hnew := (hlearned.mem entry).mpr ⟨by simpa using hf, by simpa using hs, hn⟩
  exact absurd hnew List.not_mem_nil

/-- Of the fillers listed, only those that begin with a loose mark can be news when they are
learned again. -/
theorem relist_iff {v : Vocabulary} (hv : v.Reachable) :
    v.addFillers v.fillerEntries = (v, 0) ↔
      ∀ entry ∈ v.fillerEntries, startsKept entry.toList = false →
        ∀ again, normalizeEntry entry = some again →
          v.isFiller again = true ∨ v.isStop again = true := by
  rw [addFillers_eq_iff]
  constructor
  · intro h entry hentry _ again hagain
    exact h again ⟨entry, hentry, hagain⟩
  · rintro h again ⟨entry, hentry, hagain⟩
    cases hstart : startsKept entry.toList with
    | false => exact h entry hentry hstart again hagain
    | true =>
      have hknown := (mem_fillerEntries v entry).mp hentry
      obtain ⟨text, htext⟩ := hv.filler_named hknown
      rw [(normalizeEntry_entry_iff htext).mpr hstart] at hagain
      exact .inl (Option.some.inj hagain ▸ hknown)

end Vocabulary

namespace Classifier

/-- Normalizing twice changes nothing more, and no classifier can tell speech from its normal
form. -/
theorem normal_form_stable (text : String) :
    normalize (normalize text) = normalize text ∧ tokenize (normalize text) = tokenize text ∧
      ∀ c : Classifier, c.classify (normalize text) = c.classify text := by
  refine ⟨normalize_normalize text, tokenize_normalize text, fun c => ?_⟩
  rw [classify, classify, tokenize_normalize]

/-- An entry is its own normal form unless it begins with a mark that no word starts with. -/
theorem entries_recognised (c : Classifier) (hv : c.vocabulary.Reachable) :
    (∀ text entry, normalizeEntry text = some entry →
      (normalizeEntry entry = some entry ↔ startsKept entry.toList = true) ∧
      (tokenize entry = tokenize text ↔ startsKept entry.toList = true)) ∧
    (c.addIgnoredWords c.vocabulary.fillerEntries = (c, 0) ↔
      ∀ entry ∈ c.vocabulary.fillerEntries, startsKept entry.toList = false →
        ∀ again, normalizeEntry entry = some again →
          c.vocabulary.isFiller again = true ∨ c.vocabulary.isStop again = true) := by
  refine ⟨fun text entry h => ⟨normalizeEntry_entry_iff h, tokenize_entry_iff h⟩, ?_⟩
  rw [← Vocabulary.relist_iff hv]
  have hadd : c.addIgnoredWords c.vocabulary.fillerEntries =
      ({ c with vocabulary := (c.vocabulary.addFillers c.vocabulary.fillerEntries).1 },
        (c.vocabulary.addFillers c.vocabulary.fillerEntries).2) := rfl
  rw [hadd]
  constructor
  · intro h
    obtain ⟨hc, hn⟩ := Prod.mk.inj h
    exact Prod.ext (congrArg Classifier.vocabulary hc) hn
  · intro h
    rw [h]

theorem entries_recognised_listed :
    let v : Vocabulary := ⟨[("tu vois", none), ("um", none)], ["stop"], 2, 1⟩
    let c : Classifier := ⟨v, true⟩
    v.Reachable ∧ normalizeEntry "  TU\u0300 … vois," = some "tu\u0300 vois" ∧
      normalizeEntry "tu\u0300 vois" = some "tu\u0300 vois" ∧
      c.addIgnoredWords c.vocabulary.fillerEntries = (c, 0) := by
  intro v c
  have hb : Vocabulary.build [(none, "tu  VOIS")] ["Stop!"] =
      .ok ⟨[("tu vois", none)], ["stop"], 2, 1⟩ := by decide +kernel
  have hl : (Vocabulary.addFillers ⟨[("tu vois", none)], ["stop"], 2, 1⟩ ["Um,"]).1 = v := by
    decide +kernel
  have hv : v.Reachable := hl ▸ .extended ["Um,"] (.built hb)
  have hnamed : normalizeEntry "  TU\u0300 … vois," = some "tu\u0300 vois" := by decide +kernel
  have hagain := ((entries_recognised c hv).1 _ _ hnamed).1.mpr (by decide +kernel)
  have hlisted : v.fillerEntries = ["tu vois", "um"] :=
    List.mergeSort_of_pairwise (by decide +kernel)
  refine ⟨hv, hnamed, hagain, (entries_recognised c hv).2.mpr ?_⟩
  have hkept : ∀ entry ∈ v.fillerEntries, startsKept entry.toList = true := by
    rw [hlisted]
    decide +kernel
  intro entry hentry hloose
  exact absurd (hkept entry hentry) (by simp [hloose])

/-- A mark goes with the space before it, and is left without it when the words are joined. -/
theorem loose_entry_reduced :
    let v : Vocabulary := ⟨[("um", none), ("\u0301b", none)], ["stop"], 1, 1⟩
    let c : Classifier := ⟨v, true⟩
    v.Reachable ∧ normalizeEntry " \u0301b" = some "\u0301b" ∧
      normalizeEntry "\u0301b" = some "b" ∧ tokenize "\u0301b" ≠ tokenize " \u0301b" ∧
      (c.addIgnoredWords c.vocabulary.fillerEntries).2 = 1 ∧
      (c.addIgnoredWords c.vocabulary.fillerEntries).1.vocabulary.isFiller "b" = true := by
  intro v c
  have hb : Vocabulary.build [(none, "um")] ["Stop!"] = .ok ⟨[("um", none)], ["stop"], 1, 1⟩ := by
    decide +kernel
  have hl : (Vocabulary.addFillers ⟨[("um", none)], ["stop"], 1, 1⟩ [" \u0301b"]).1 = v := by
    decide +kernel
  have hv : v.Reachable := hl ▸ .extended [" \u0301b"] (.built hb)
  have hlisted : c.vocabulary.fillerEntries = ["um", "\u0301b"] :=
    List.mergeSort_of_pairwise (by decide +kernel)
  rw [hlisted]
  exact ⟨hv, by decide +kernel, by decide +kernel, by decide +kernel, by decide +kernel,
    by decide +kernel⟩

/-- Unless the space is swallowed or loose marks follow it, the words on its two sides are read
independently, and a stop command between two such spaces is heard. A space that is swallowed
separates nothing. -/
theorem spaces_separate (a b : String) :
    (swallowsSpace a = false →
      (tokenize (a ++ " " ++ b) = tokenize a ++ tokenize b ↔ beginsLoose b = false)) ∧
    (swallowsSpace a = true → beginsMarked b = false →
      normalize (a ++ " " ++ b) = normalize a ++ normalize b) ∧
    ∀ c : Classifier, c.vocabulary.Reachable → swallowsSpace a = false →
      beginsLoose b = false → swallowsSpace b = false → (c.classify b).isStop = true →
      ∀ later, (c.classify (a ++ " " ++ b ++ " " ++ later)).isStop = true := by
  refine ⟨fun ha => tokenize_space_iff ha b, normalize_swallowed, ?_⟩
  intro c hv ha hb hb' hstop later
  have hw := hv.wellFormed
  obtain ⟨run, hrun, hknown⟩ := (classify_isStop_iff c hw b).mp hstop
  exact (classify_isStop_iff c hw _).mpr
    ⟨run, hrun.trans (tokenize_between ha hb hb' later), hknown⟩

theorem spaces_separate_marked :
    let v : Vocabulary := ⟨[("um", none)], ["stop"], 1, 1⟩
    let c : Classifier := ⟨v, true⟩
    v.Reachable ∧
      tokenize ("ΟΔΟΣ\u0600?" ++ " " ++ "Stop!") = tokenize "ΟΔΟΣ\u0600?" ++ tokenize "Stop!" ∧
      normalize ("five\u0600" ++ " " ++ "stop") = normalize "five\u0600" ++ normalize "stop" ∧
      (c.classify ("ΟΔΟΣ\u0600?" ++ " " ++ "Stop!" ++ " " ++ "\u0301now")).isStop = true := by
  intro v c
  have hb : Vocabulary.build [(none, "um")] ["Stop!"] = .ok v := by decide +kernel
  have hv : v.Reachable := .built hb
  have hgap : swallowsSpace "ΟΔΟΣ\u0600?" = false := by decide +kernel
  have hstop : beginsLoose "Stop!" = false := by decide +kernel
  obtain ⟨hsame, -, hheard⟩ := spaces_separate "ΟΔΟΣ\u0600?" "Stop!"
  exact ⟨hv, (hsame hgap).mpr hstop,
    (spaces_separate "five\u0600" "stop").2.1 (by decide +kernel) (by decide +kernel),
    hheard c hv hgap hstop (by decide +kernel) (by decide +kernel) "\u0301now"⟩

/-- A sign that is put before a space takes it along, and a mark after a space joins the stop
phrase. -/
theorem stop_hidden :
    let v : Vocabulary := ⟨[("um", none)], ["stop"], 1, 1⟩
    let c : Classifier := ⟨v, true⟩
    v.Reachable ∧ c.classify "stop" = .stopCommand "stop" ∧
      tokenize ("five\u0600" ++ " " ++ "stop") ≠ tokenize "five\u0600" ++ tokenize "stop" ∧
      c.classify ("five\u0600" ++ " " ++ "stop" ++ " " ++ "now") =
        .meaningful ["fivestop", "now"] ∧
      c.classify "\u0301stop" = .stopCommand "stop" ∧
      c.classify ("five" ++ " " ++ "\u0301stop" ++ " " ++ "now") =
        .meaningful ["five", "\u0301stop", "now"] := by
  intro v c
  have hb : Vocabulary.build [(none, "um")] ["Stop!"] = .ok v := by decide +kernel
  exact ⟨.built hb, by decide +kernel, by decide +kernel, by decide +kernel, by decide +kernel,
    by decide +kernel⟩

end Classifier

end BargeIn
