import Mathlib.Data.List.Infix
import BargeIn.Proofs.Lexicon.Classification
import BargeIn.Proofs.Lexicon.Learning

/-!
# Speech under a growing vocabulary

A new filler takes words away from what is left over of speech, as long as it leaves the fillers
known before in one piece. A new phrase that ends in the first words of a known one breaks it, and
what remains of the known phrase may then be left over. Single words break nothing.
-/

set_option autoImplicit false

namespace BargeIn

open Text

namespace Vocabulary

def spoken (segments : List Segment) : List String :=
  segments.flatMap Segment.tokens

def respects (v : Vocabulary) : List Segment → Bool
  | [] => true
  | segment :: later =>
    (match v.matchFiller (spoken (segment :: later)) with
      | some n => (segment :: later).inits.any fun whole => (spoken whole).length == n
      | none => true) && v.respects later

theorem spoken_append (segments later : List Segment) :
    spoken (segments ++ later) = spoken segments ++ spoken later := by
  simp [spoken]

theorem segmentation_spoken {v : Vocabulary} {tokens : List String} {segments : List Segment}
    (h : v.Segmentation tokens segments) : tokens = spoken segments := by
  induction segments generalizing tokens with
  | nil => exact h
  | cons segment segments ih =>
    obtain ⟨rest, rfl, -, hrest⟩ := h
    rw [ih hrest]
    rfl

theorem segmentation_later {v : Vocabulary} {tokens : List String} (whole later : List Segment)
    (h : v.Segmentation tokens (whole ++ later)) : v.Segmentation (spoken later) later := by
  induction whole generalizing tokens with
  | nil => exact segmentation_spoken h ▸ h
  | cons segment whole ih =>
    obtain ⟨rest, -, -, hrest⟩ := h
    exact ih hrest

theorem respects_later {v : Vocabulary} (whole later : List Segment)
    (h : v.respects (whole ++ later) = true) : v.respects later = true := by
  induction whole with
  | nil => exact h
  | cons segment whole ih =>
    simp only [List.cons_append, respects, Bool.and_eq_true] at h
    exact ih h.2

theorem respects_whole {v : Vocabulary} (hv : v.WellFormed) {segments : List Segment}
    (h : v.respects segments = true) {run : List String}
    (hl : Longest v.isFiller run (spoken segments)) :
    ∃ whole later, segments = whole ++ later ∧ run = spoken whole := by
  have hm : v.matchFiller (spoken segments) = some run.length :=
    (matchFiller_eq_some_iff hv _ _).mpr ⟨run, hl, rfl⟩
  cases segments with
  | nil => exact absurd (List.prefix_nil.mp hl.begins) hl.nonempty
  | cons segment later =>
    simp only [respects, hm, Bool.and_eq_true, List.any_eq_true, beq_iff_eq] at h
    obtain ⟨⟨whole, hwhole, hlen⟩, -⟩ := h
    obtain ⟨rest, hrest⟩ := (List.mem_inits _ _).mp hwhole
    refine ⟨whole, rest, hrest.symm, ?_⟩
    have hprefix : spoken whole <+: spoken (segment :: later) := by
      rw [← hrest, spoken_append]
      exact List.prefix_append _ _
    exact (List.prefix_of_prefix_length_le hl.begins hprefix hlen.ge).eq_of_length hlen.symm

theorem segmentation_word {v w : Vocabulary}
    (hmore : ∀ entry, v.isFiller entry = true → w.isFiller entry = true) {token : String}
    {rest : List String} {segments : List Segment} (hnone : NoneBegins w.isFiller (token :: rest))
    (hv : v.Segmentation (token :: rest) segments) :
    ∃ later, segments = .word token :: later ∧ v.Segmentation rest later := by
  cases segments with
  | nil => exact absurd hv (List.cons_ne_nil token rest)
  | cons segment later =>
    obtain ⟨rest', htokens, hfits, hrest⟩ := hv
    cases segment with
    | filler run =>
      have hknown := hmore _ hfits.isKnown
      have hbegins : NoneBegins w.isFiller (run ++ rest') := htokens ▸ hnone
      rw [hbegins run hfits.nonempty (List.prefix_append run rest')] at hknown
      exact absurd hknown (by simp)
    | word token' =>
      obtain ⟨rfl, rfl⟩ := List.cons.inj htokens
      exact ⟨later, rfl, hrest⟩

theorem leftOver_sublist {v w : Vocabulary} (hw : w.WellFormed)
    (hmore : ∀ entry, v.isFiller entry = true → w.isFiller entry = true) {tokens : List String}
    {segments segments' : List Segment} (hv : v.Segmentation tokens segments)
    (hs : w.Segmentation tokens segments') (h : w.respects segments = true) :
    (segments'.filterMap Segment.leftOver).Sublist (segments.filterMap Segment.leftOver) := by
  induction segments' generalizing tokens segments with
  | nil => exact List.nil_sublist _
  | cons first segments' ih =>
    obtain ⟨rest, htokens, hfits, hrest⟩ := hs
    have hspoken := segmentation_spoken hv
    cases first with
    | filler run =>
      have hl : Longest w.isFiller run (spoken segments) := by
        rw [← hspoken, htokens]
        exact hfits
      obtain ⟨whole, later, rfl, rfl⟩ := respects_whole hw h hl
      have hlater : rest = spoken later := by
        rw [hspoken, spoken_append] at htokens
        exact (List.append_cancel_left htokens).symm
      subst hlater
      have htail := ih (segmentation_later whole later hv) hrest (respects_later whole later h)
      rw [List.filterMap_append]
      exact htail.trans (List.sublist_append_right _ _)
    | word token =>
      obtain ⟨later, rfl, hlater⟩ := segmentation_word hmore hfits (htokens ▸ hv)
      exact (ih hlater hrest (respects_later [.word token] later h)).cons_cons token

theorem respects_of_longest {w : Vocabulary} (hw : w.WellFormed) {segments : List Segment}
    (h : ∀ whole later, segments = whole ++ later → ∀ run,
      Longest w.isFiller run (spoken later) →
      ∃ taken rest, later = taken ++ rest ∧ run = spoken taken) : w.respects segments = true := by
  induction segments with
  | nil => rfl
  | cons segment later ih =>
    rw [respects, Bool.and_eq_true]
    refine ⟨?_, ih fun whole rest hcut => h (segment :: whole) rest (congrArg _ hcut)⟩
    cases hm : w.matchFiller (spoken (segment :: later)) with
    | none => rfl
    | some n =>
      obtain ⟨run, hl, rfl⟩ := (matchFiller_eq_some_iff hw _ _).mp hm
      obtain ⟨taken, rest, hcut, rfl⟩ := h [] (segment :: later) rfl run hl
      rw [List.any_eq_true]
      refine ⟨taken, (List.mem_inits _ _).mpr ?_, beq_iff_eq.mpr rfl⟩
      rw [hcut]
      exact List.prefix_append taken rest

theorem prefix_cut {segments : List Segment} {run : List String} (h : run <+: spoken segments) :
    (∃ whole later, segments = whole ++ later ∧ run = spoken whole) ∨
      ∃ whole segment later y z, segments = whole ++ segment :: later ∧ run = spoken whole ++ y ∧
        segment.tokens = y ++ z ∧ y ≠ [] ∧ z ≠ [] := by
  induction segments generalizing run with
  | nil => exact .inl ⟨[], [], rfl, List.prefix_nil.mp h⟩
  | cons segment later ih =>
    have hspoken : spoken (segment :: later) = segment.tokens ++ spoken later := rfl
    rw [hspoken] at h
    -- The run ends within the first segment or goes beyond it.
    rcases List.prefix_or_prefix_of_prefix h (List.prefix_append segment.tokens (spoken later)) with
      ⟨z, hz⟩ | ⟨beyond, rfl⟩
    · by_cases hend : z = []
      · subst hend
        refine .inl ⟨[segment], later, rfl, ?_⟩
        simpa [spoken] using hz
      · by_cases hstart : run = []
        · exact .inl ⟨[], segment :: later, rfl, hstart⟩
        · exact .inr ⟨[], segment, later, run, z, rfl, rfl, hz.symm, hstart, hend⟩
    · rcases ih ((List.prefix_append_right_inj segment.tokens).mp h) with
        ⟨whole, rest, rfl, rfl⟩ | ⟨whole, cut, rest, y, z, rfl, rfl, hcut⟩
      · exact .inl ⟨segment :: whole, rest, rfl, rfl⟩
      · refine .inr ⟨segment :: whole, cut, rest, y, z, rfl, ?_, hcut⟩
        rw [← List.append_assoc]
        rfl

theorem fits_divided {v : Vocabulary} {segment : Segment} {rest y z : List String}
    (h : segment.Fits v rest) (hparts : segment.tokens = y ++ z) (hy : y ≠ []) (hz : z ≠ []) :
    v.isFiller (joinWords (y ++ z)) = true := by
  cases segment with
  | filler known => exact hparts ▸ h.isKnown
  | word token =>
    have hlen := congrArg List.length hparts
    have hypos := List.length_pos_iff.mpr hy
    have hzpos := List.length_pos_iff.mpr hz
    simp only [Segment.tokens, List.length_append, List.length_singleton] at hlen
    omega

theorem fits_length {v : Vocabulary} {segment : Segment} {rest run : List String}
    (h : segment.Fits v rest) (hn : run ≠ []) (hp : run <+: segment.tokens ++ rest)
    (hk : v.isFiller (joinWords run) = true) : run.length ≤ segment.tokens.length := by
  cases segment with
  | filler known => exact h.longest run hp hk
  | word token =>
    rw [h run hn hp] at hk
    exact absurd hk Bool.false_ne_true

/-- A filler that is longest when more are known takes whole segments, unless it is a new one that
ends in the first words of a filler known before. -/
theorem longest_whole {v w : Vocabulary}
    (hmore : ∀ entry, v.isFiller entry = true → w.isFiller entry = true)
    {tokens run : List String} {segments : List Segment} (hv : v.Segmentation tokens segments)
    (hl : Longest w.isFiller run tokens)
    (hrun : v.isFiller (joinWords run) = true ∨ ∀ x y z, run = x ++ y → x ≠ [] → y ≠ [] → z ≠ [] →
      y ++ z ⊆ tokens → v.isFiller (joinWords (y ++ z)) = false) :
    ∃ taken rest, segments = taken ++ rest ∧ run = spoken taken := by
  have hspoken := segmentation_spoken hv
  rcases prefix_cut (hspoken ▸ hl.begins) with hwhole | ⟨whole, cut, later, y, z, rfl, rfl, hcut⟩
  · exact hwhole
  exfalso
  obtain ⟨hparts, hy, hz⟩ := hcut
  obtain ⟨_, -, hcut, -⟩ := segmentation_later whole (cut :: later) hv
  have hsevered := fits_divided hcut hparts hy hz
  have hypos := List.length_pos_iff.mpr hy
  have hzpos := List.length_pos_iff.mpr hz
  cases whole with
  | nil =>
    -- The filler that is cut would be the longer one.
    have hbegins : y ++ z <+: tokens := by
      rw [hspoken, ← hparts]
      exact List.prefix_append _ _
    have hlen := hl.longest (y ++ z) hbegins (hmore _ hsevered)
    simp only [spoken, List.flatMap_nil, List.nil_append, List.length_append] at hlen
    omega
  | cons first whole =>
    have hwithin : y ++ z ⊆ tokens := by
      rw [hspoken, spoken_append, ← hparts]
      exact List.Subset.trans (List.subset_append_left _ _) (List.subset_append_right _ _)
    obtain ⟨rest, rfl, hfirst, -⟩ := hv
    have hpos := List.length_pos_iff.mpr (fits_nonempty hfirst)
    have hlen : (spoken (first :: whole)).length = first.tokens.length + (spoken whole).length := by
      simp [spoken]
    rcases hrun with hold | hnew
    · have hle := fits_length hfirst hl.nonempty hl.begins hold
      rw [List.length_append] at hle
      omega
    · have hx : spoken (first :: whole) ≠ [] := List.ne_nil_of_length_pos (by omega)
      rw [hnew _ y z rfl hx hy hz hwithin] at hsevered
      exact Bool.false_ne_true hsevered

/-- No known filler begins with the last words of one of the phrases, other words before them, and
goes on. -/
def Apart (v : Vocabulary) (words : List String) : Prop :=
  ∀ word ∈ words, ∀ ending ∈ (tokenize word).tail.tails, ending ≠ [] →
    ∀ filler ∈ v.fillers, ending <+: splitWords filler.1 → ending = splitWords filler.1

instance (v : Vocabulary) (words : List String) : Decidable (v.Apart words) :=
  inferInstanceAs (Decidable (∀ word ∈ words, ∀ ending ∈ (tokenize word).tail.tails, ending ≠ [] →
    ∀ filler ∈ v.fillers, ending <+: splitWords filler.1 → ending = splitWords filler.1))

theorem apart_single (v : Vocabulary) {words : List String}
    (h : ∀ word ∈ words, (tokenize word).length ≤ 1) : v.Apart words := by
  intro word hword ending hending hn
  have htail : (tokenize word).tail = [] := by
    apply List.eq_nil_of_length_eq_zero
    have hlen := h word hword
    rw [List.length_tail]
    omega
  rw [htail, List.mem_tails, List.suffix_nil] at hending
  exact absurd hending hn

theorem apart_respects {v : Vocabulary} (hv : v.WellFormed) {words : List String}
    (h : v.Apart words) {tokens : List String} (ht : ∀ t ∈ tokens, IsWord t) :
    (v.addFillers words).1.respects (v.cut tokens) = true := by
  obtain ⟨new, hlearned, -⟩ := addFillers_learned v words
  have hcut := cut_segmentation hv tokens
  apply respects_of_longest (addFillers_wellFormed v words hv)
  intro whole later hparts run hl
  rw [hparts] at hcut
  have hwords : ∀ ts, ts ⊆ spoken later → ∀ t ∈ ts, IsWord t := by
    intro ts hts t hmem
    apply ht
    rw [segmentation_spoken hcut, spoken_append]
    exact List.mem_append_right _ (hts hmem)
  apply longest_whole (fun entry he => (hlearned.isFiller_iff entry).mpr (.inl he))
    (segmentation_later whole later hcut) hl
  rcases (hlearned.isFiller_iff _).mp hl.isKnown with hold | ⟨-, word, hword, hnamed⟩
  · exact .inl hold
  · right
    -- The new filler is made up of the words of the phrase it was learned from.
    have hsame : tokenize word = run :=
      joinWords_injective (tokenize_isWord word) (hwords run hl.begins.subset)
        ((normalizeEntry_eq_some_iff word _).mp hnamed).2
    intro x y z hsplit hx hy hz hwithin
    rw [← Bool.not_eq_true, isFiller_iff, List.mem_map]
    rintro ⟨filler, hfiller, hentry⟩
    have hphrase : splitWords filler.1 = y ++ z := by
      rw [hentry, splitWords_joinWords (hwords _ hwithin)]
    have hending : y ∈ (tokenize word).tail.tails := by
      rw [hsame, hsplit, List.tail_append_of_ne_nil hx, List.mem_tails]
      exact List.suffix_append _ _
    have hwhole := h word hword y hending hy filler hfiller (hphrase ▸ List.prefix_append y z)
    rw [hphrase] at hwhole
    exact hz (by simpa using hwhole)

end Vocabulary

namespace Classification

/-- What may become of speech when more fillers are known: what was left over is left over in
part, and nothing else changes. -/
inductive Narrows : Classification → Classification → Prop
  | filler : Narrows .onlyFiller .onlyFiller
  | stop (matched : String) : Narrows (.stopCommand matched) (.stopCommand matched)
  | fewer {residual fewer : List String} (h : fewer.Sublist residual) :
      Narrows (.meaningful residual) (.meaningful fewer)
  | none (residual : List String) : Narrows (.meaningful residual) .onlyFiller

theorem ofWords_narrows {words fewer : List String} (h : fewer.Sublist words) :
    (ofWords words).Narrows (ofWords fewer) := by
  unfold ofWords
  by_cases hf : fewer = []
  · rw [if_pos hf]
    split
    · exact .filler
    · exact .none words
  · have hw : words ≠ [] := fun hw => hf (List.sublist_nil.mp (hw ▸ h))
    rw [if_neg hf, if_neg hw]
    exact .fewer h

end Classification

namespace Classifier

open Vocabulary

theorem addIgnoredWords_eq (c : Classifier) (words : List String) :
    (c.addIgnoredWords words).1 = ⟨(c.vocabulary.addFillers words).1, c.enabled⟩ :=
  rfl

theorem narrows_of_respects {c : Classifier} (hv : c.vocabulary.WellFormed) (words : List String)
    {text : String} (h : (c.addIgnoredWords words).1.vocabulary.respects
      (c.vocabulary.cut (tokenize text)) = true) :
    (c.classify text).Narrows ((c.addIgnoredWords words).1.classify text) := by
  rw [addIgnoredWords_eq] at h ⊢
  have hw := addFillers_wellFormed c.vocabulary words hv
  obtain ⟨new, hlearned, -⟩ := addFillers_learned c.vocabulary words
  rw [classify, classify, classifyTokens_eq, classifyTokens_eq,
    findStop_congr hw hv hlearned.isStop (tokenize text)]
  cases c.vocabulary.findStop (tokenize text) with
  | some matched => exact .stop matched
  | none =>
    apply Classification.ofWords_narrows
    cases c.enabled with
    | false => exact .refl _
    | true =>
      rw [if_pos rfl, if_pos rfl, residual_eq, residual_eq]
      exact leftOver_sublist hw (fun entry he => (hlearned.isFiller_iff entry).mpr (.inl he))
        (cut_segmentation hv _) (cut_segmentation hw _) h

/-- Adding fillers leaves over less of any speech whose fillers stay whole, which is all speech if
no known filler begins with the last words of an added phrase. -/
theorem adding_narrows (c : Classifier) (hv : c.vocabulary.Reachable) (words : List String) :
    (∀ text, (c.addIgnoredWords words).1.vocabulary.respects
        (c.vocabulary.cut (tokenize text)) = true →
      (c.classify text).Narrows ((c.addIgnoredWords words).1.classify text)) ∧
    (c.vocabulary.Apart words → ∀ text,
      (c.classify text).Narrows ((c.addIgnoredWords words).1.classify text)) ∧
    ((∀ word ∈ words, (tokenize word).length ≤ 1) → c.vocabulary.Apart words) ∧
    ∀ text, ((c.addIgnoredWords words).1.classify text).isStop = (c.classify text).isStop := by
  have hw := hv.wellFormed
  refine ⟨fun text => narrows_of_respects hw words, fun happart text => ?_,
    apart_single c.vocabulary, fun text => ?_⟩
  · exact narrows_of_respects hw words (apart_respects hw happart (tokenize_isWord text))
  · rw [classify_isStop, classify_isStop, addIgnoredWords_eq]
    exact congrArg _ (findStop_congr (addFillers_wellFormed _ words hw) hw
      (isStop_congr (addFillers_stops _ words)) _)

theorem adding_narrows_phrases :
    let v : Vocabulary := ⟨[("yeah", none), ("you know", none)], ["stop"], 2, 1⟩
    let c : Classifier := ⟨v, true⟩
    let words := ["Well, you know", "know what"]
    v.Reachable ∧ c.classify "Well, you know what?" = .meaningful ["well", "what"] ∧
      (c.addIgnoredWords words).1.classify "Well, you know what?" = .meaningful ["what"] ∧
      (c.classify "Well, you know what?").Narrows
        ((c.addIgnoredWords words).1.classify "Well, you know what?") ∧
      (c.classify "you know").Narrows
        ((c.addIgnoredWords ["yeah you"]).1.classify "you know") := by
  intro v c words
  have hb : Vocabulary.build [(none, "Yeah"), (none, "you know")] ["Stop!"] = .ok v := by
    decide +kernel
  have hv : v.Reachable := .built hb
  have hapart : v.Apart words := by decide +kernel
  exact ⟨hv, by decide +kernel, by decide +kernel, (adding_narrows c hv words).2.1 hapart _,
    (adding_narrows c hv ["yeah you"]).1 _ (by decide +kernel)⟩

/-- An added phrase takes the first word of a known filler and leaves the other. -/
theorem adding_severs :
    let v : Vocabulary := ⟨[("yeah", none), ("you know", none)], ["stop"], 2, 1⟩
    let c : Classifier := ⟨v, true⟩
    v.Reachable ∧ c.classify "yeah you know" = .onlyFiller ∧
      (c.addIgnoredWords ["yeah you"]).1.classify "yeah you know" = .meaningful ["know"] ∧
      c.classify "so yeah you know" = .meaningful ["so"] ∧
      (c.addIgnoredWords ["yeah you"]).1.classify "so yeah you know" =
        .meaningful ["so", "know"] := by
  intro v c
  have hb : Vocabulary.build [(none, "Yeah"), (none, "you know")] ["Stop!"] = .ok v := by
    decide +kernel
  exact ⟨.built hb, by decide +kernel, by decide +kernel, by decide +kernel, by decide +kernel⟩

end Classifier

end BargeIn
