import BargeIn.Lexicon.Classifier
import BargeIn.Proofs.Lexicon.Vocabulary

/-!
# The classification of speech

Speech is a stop command exactly if some run of its words is a stop phrase. Otherwise it falls
into segments, each the longest filler where it stands or a single word at which no filler
begins. There is only one way to cut it so, and the words of the second kind are what is left
over.
-/

set_option autoImplicit false

namespace BargeIn

open Text

inductive Segment
  | filler (run : List String)
  | word (token : String)
deriving Repr, DecidableEq

namespace Segment

def tokens : Segment → List String
  | filler run => run
  | word token => [token]

def leftOver : Segment → Option String
  | filler _ => none
  | word token => some token

/-- Whether the segment may be cut off where the tokens `rest` follow it. -/
def Fits (v : Vocabulary) (rest : List String) : Segment → Prop
  | filler run => Vocabulary.Longest v.isFiller run (run ++ rest)
  | word token => Vocabulary.NoneBegins v.isFiller (token :: rest)

end Segment

namespace Vocabulary

/-- The longest stop phrase at the first place where any begins. -/
def FirstStop (v : Vocabulary) (tokens : List String) (matched : String) : Prop :=
  ∃ i run, Longest v.isStop run (tokens.drop i) ∧ joinWords run = matched ∧
    ∀ j < i, NoneBegins v.isStop (tokens.drop j)

def Segmentation (v : Vocabulary) : List String → List Segment → Prop
  | tokens, [] => tokens = []
  | tokens, segment :: segments => ∃ rest, tokens = segment.tokens ++ rest ∧
      segment.Fits v rest ∧ v.Segmentation rest segments

theorem matchFiller_eq_some_iff {v : Vocabulary} (hv : v.WellFormed) (tokens : List String)
    (n : Nat) : v.matchFiller tokens = some n ↔
      ∃ run, Longest v.isFiller run tokens ∧ run.length = n :=
  longestMatch_eq_some_iff hv.fillersBounded tokens n

theorem matchFiller_eq_none_iff {v : Vocabulary} (hv : v.WellFormed) (tokens : List String) :
    v.matchFiller tokens = none ↔ NoneBegins v.isFiller tokens :=
  longestMatch_eq_none_iff hv.fillersBounded tokens

theorem matchStop_eq_some_iff {v : Vocabulary} (hv : v.WellFormed) (tokens : List String)
    (matched : String) : v.matchStop tokens = some matched ↔
      ∃ run, Longest v.isStop run tokens ∧ joinWords run = matched := by
  simp only [matchStop, Option.map_eq_some_iff, longestMatch_eq_some_iff hv.stopsBounded]
  constructor
  · rintro ⟨n, ⟨run, hl, rfl⟩, hm⟩
    rw [← List.prefix_iff_eq_take.mp hl.begins] at hm
    exact ⟨run, hl, hm⟩
  · rintro ⟨run, hl, hm⟩
    refine ⟨run.length, ⟨run, hl, rfl⟩, ?_⟩
    rwa [← List.prefix_iff_eq_take.mp hl.begins]

theorem matchStop_eq_none_iff {v : Vocabulary} (hv : v.WellFormed) (tokens : List String) :
    v.matchStop tokens = none ↔ NoneBegins v.isStop tokens := by
  rw [matchStop, Option.map_eq_none_iff, longestMatch_eq_none_iff hv.stopsBounded]

theorem firstStop_here {v : Vocabulary} {tokens run : List String}
    (hl : Longest v.isStop run tokens) (matched : String) :
    v.FirstStop tokens matched ↔ joinWords run = matched := by
  constructor
  · rintro ⟨i, run', hl', rfl, hi⟩
    cases i with
    | zero => rw [hl.unique hl']
    | succ i => exact absurd (hi 0 (Nat.succ_pos i)) hl.not_noneBegins
  · intro h
    exact ⟨0, run, hl, h, fun j hj => absurd hj (Nat.not_lt_zero j)⟩

theorem firstStop_later {v : Vocabulary} {t : String} {ts : List String}
    (hnone : NoneBegins v.isStop (t :: ts)) (matched : String) :
    v.FirstStop (t :: ts) matched ↔ v.FirstStop ts matched := by
  constructor
  · rintro ⟨i, run, hl, hr, hi⟩
    cases i with
    | zero => exact absurd hnone hl.not_noneBegins
    | succ i => exact ⟨i, run, hl, hr, fun j hj => hi (j + 1) (Nat.succ_lt_succ hj)⟩
  · rintro ⟨i, run, hl, hr, hi⟩
    refine ⟨i + 1, run, hl, hr, fun j hj => ?_⟩
    cases j with
    | zero => exact hnone
    | succ j => exact hi j (Nat.lt_of_succ_lt_succ hj)

theorem findStop_eq_some_iff {v : Vocabulary} (hv : v.WellFormed) (tokens : List String)
    (matched : String) : v.findStop tokens = some matched ↔ v.FirstStop tokens matched := by
  induction tokens with
  | nil =>
    constructor
    · intro h
      simp [findStop] at h
    · rintro ⟨i, run, hl, _⟩
      exact absurd (List.prefix_nil.mp (by simpa using hl.begins)) hl.nonempty
  | cons t ts ih =>
    rw [findStop]
    cases hm : v.matchStop (t :: ts) with
    | some first =>
      obtain ⟨run, hl, rfl⟩ := (matchStop_eq_some_iff hv _ _).mp hm
      rw [firstStop_here hl, Option.some_or, Option.some.injEq]
    | none =>
      rw [Option.none_or, ih, firstStop_later ((matchStop_eq_none_iff hv _).mp hm)]

theorem findStop_eq_none_iff {v : Vocabulary} (hv : v.WellFormed) (tokens : List String) :
    v.findStop tokens = none ↔
      ∀ run, run <:+: tokens → v.isStop (joinWords run) = false := by
  induction tokens with
  | nil =>
    constructor
    · intro _ run hr
      rw [List.infix_nil.mp hr]
      exact hv.emptyStop
    · intro _
      rfl
  | cons t ts ih =>
    rw [findStop, Option.or_eq_none_iff, matchStop_eq_none_iff hv, ih]
    constructor
    · rintro ⟨h0, hlater⟩ run hr
      rcases List.infix_cons_iff.mp hr with hp | hi
      · by_cases hn : run = []
        · rw [hn]
          exact hv.emptyStop
        · exact h0 run hn hp
      · exact hlater run hi
    · intro h
      exact ⟨fun run _ hp => h run hp.isInfix, fun run hi => h run (List.infix_cons hi)⟩

theorem findStop_congr {v w : Vocabulary} (hv : v.WellFormed) (hw : w.WellFormed)
    (h : v.isStop = w.isStop) (tokens : List String) : v.findStop tokens = w.findStop tokens := by
  apply Option.ext
  intro matched
  rw [findStop_eq_some_iff hv, findStop_eq_some_iff hw, FirstStop, FirstStop, h]

theorem fits_unique {v : Vocabulary} {a b : Segment} {rest rest' : List String}
    (ha : a.Fits v rest) (hb : b.Fits v rest') (h : a.tokens ++ rest = b.tokens ++ rest') :
    a = b := by
  cases a with
  | filler run =>
    have hl : Longest v.isFiller run (b.tokens ++ rest') := h ▸ ha
    cases b with
    | filler run' => rw [hl.unique hb]
    | word token => exact absurd hb hl.not_noneBegins
  | word token =>
    have hn : NoneBegins v.isFiller (b.tokens ++ rest') := h ▸ ha
    cases b with
    | filler run' => exact absurd hn hb.not_noneBegins
    | word token' => rw [(List.cons.inj h).1]

theorem fits_nonempty {v : Vocabulary} {segment : Segment} {rest : List String}
    (h : segment.Fits v rest) : segment.tokens ≠ [] := by
  cases segment with
  | filler run => exact h.nonempty
  | word token => exact List.cons_ne_nil token []

theorem segmentation_unique {v : Vocabulary} {tokens : List String} {a b : List Segment}
    (ha : v.Segmentation tokens a) (hb : v.Segmentation tokens b) : a = b := by
  induction a generalizing tokens b with
  | nil =>
    cases b with
    | nil => rfl
    | cons y ys =>
      obtain ⟨rest, ht, hy, _⟩ := hb
      rw [show tokens = [] from ha] at ht
      exact absurd (List.append_eq_nil_iff.mp ht.symm).1 (fits_nonempty hy)
  | cons x xs ih =>
    obtain ⟨rest, ht, hx, hxs⟩ := ha
    cases b with
    | nil =>
      rw [show tokens = [] from hb] at ht
      exact absurd (List.append_eq_nil_iff.mp ht.symm).1 (fits_nonempty hx)
    | cons y ys =>
      obtain ⟨rest', ht', hy, hys⟩ := hb
      have hxy := fits_unique hx hy (ht.symm.trans ht')
      subst hxy
      have hr : rest = rest' := List.append_cancel_left (ht.symm.trans ht')
      rw [ih hxs (hr ▸ hys)]

def cutFrom (v : Vocabulary) : Nat → List String → List Segment
  | _, [] => []
  | passed + 1, _ :: ts => v.cutFrom passed ts
  | 0, t :: ts =>
    match v.matchFiller (t :: ts) with
    | some n => .filler ((t :: ts).take n) :: v.cutFrom (n - 1) ts
    | none => .word t :: v.cutFrom 0 ts

def cut (v : Vocabulary) (tokens : List String) : List Segment :=
  v.cutFrom 0 tokens

theorem cutFrom_segmentation {v : Vocabulary} (hv : v.WellFormed) (passed : Nat)
    (tokens : List String) : v.Segmentation (tokens.drop passed) (v.cutFrom passed tokens) := by
  fun_induction cutFrom v passed tokens with
  | case1 passed => exact List.drop_nil
  | case2 passed t ts ih => exact ih
  | case3 t ts n hm ih =>
    obtain ⟨run, hl, rfl⟩ := (matchFiller_eq_some_iff hv _ _).mp hm
    have hrun : (t :: ts).take run.length = run := (List.prefix_iff_eq_take.mp hl.begins).symm
    obtain ⟨rest, ht⟩ := hl.begins
    have hd : ts.drop (run.length - 1) = rest := by
      have hpos := List.length_pos_iff.mpr hl.nonempty
      rw [← List.drop_succ_cons (a := t), Nat.sub_add_cancel hpos, ← ht, List.drop_left]
    refine ⟨rest, ?_, ?_, hd ▸ ih⟩
    · rw [hrun]
      exact ht.symm
    · rw [hrun, Segment.Fits, ht]
      exact hl
  | case4 t ts hm ih => exact ⟨ts, rfl, (matchFiller_eq_none_iff hv _).mp hm, ih⟩

theorem cut_segmentation {v : Vocabulary} (hv : v.WellFormed) (tokens : List String) :
    v.Segmentation tokens (v.cut tokens) :=
  cutFrom_segmentation hv 0 tokens

theorem residualFrom_eq (v : Vocabulary) (passed : Nat) (tokens : List String) :
    v.residualFrom passed tokens = (v.cutFrom passed tokens).filterMap Segment.leftOver := by
  fun_induction cutFrom v passed tokens with
  | case1 passed => cases passed <;> rfl
  | case2 passed t ts ih => exact ih
  | case3 t ts n hm ih =>
    rw [residualFrom, hm]
    exact ih
  | case4 t ts hm ih =>
    rw [residualFrom, hm]
    exact congrArg (t :: ·) ih

theorem residual_eq (v : Vocabulary) (tokens : List String) :
    v.residual tokens = (v.cut tokens).filterMap Segment.leftOver :=
  residualFrom_eq v 0 tokens

/-- The scan cuts speech into segments, and what it leaves over are their words. -/
theorem residualFrom_segmentation {v : Vocabulary} (hv : v.WellFormed) (passed : Nat)
    (tokens : List String) : ∃ segments, v.Segmentation (tokens.drop passed) segments ∧
      segments.filterMap Segment.leftOver = v.residualFrom passed tokens :=
  ⟨v.cutFrom passed tokens, cutFrom_segmentation hv passed tokens,
    (residualFrom_eq v passed tokens).symm⟩

theorem segmentation_sublist {v : Vocabulary} {tokens : List String} {segments : List Segment}
    (h : v.Segmentation tokens segments) :
    (segments.filterMap Segment.leftOver).Sublist tokens := by
  induction segments generalizing tokens with
  | nil => exact List.nil_sublist tokens
  | cons segment segments ih =>
    obtain ⟨rest, rfl, _, hs⟩ := h
    cases segment with
    | filler run => exact (ih hs).trans (List.sublist_append_right run rest)
    | word token => exact (ih hs).cons_cons token

theorem segmentation_leftOver {v : Vocabulary} {tokens : List String} {segments : List Segment}
    (h : v.Segmentation tokens segments) :
    ∀ t ∈ segments.filterMap Segment.leftOver, v.isFiller t = false := by
  induction segments generalizing tokens with
  | nil => simp
  | cons segment segments ih =>
    obtain ⟨rest, rfl, hf, hs⟩ := h
    cases segment with
    | filler run => exact ih hs
    | word token =>
      intro t ht
      rcases List.mem_cons.mp ht with rfl | ht
      · simpa using hf [t] (List.cons_ne_nil t []) (List.prefix_append [t] rest)
      · exact ih hs t ht

end Vocabulary

namespace Classification

def ofWords (words : List String) : Classification :=
  if words = [] then .onlyFiller else .meaningful words

theorem ofWords_isStop (words : List String) : (ofWords words).isStop = false := by
  unfold ofWords
  split <;> rfl

end Classification

namespace Classifier

theorem classifyTokens_eq (c : Classifier) (tokens : List String) :
    c.classifyTokens tokens = match c.vocabulary.findStop tokens with
      | some matched => .stopCommand matched
      | none => .ofWords (if c.enabled then c.vocabulary.residual tokens else tokens) := by
  cases tokens with
  | nil => cases he : c.enabled <;> rfl
  | cons t ts =>
    simp only [classifyTokens, List.isEmpty_cons, Bool.false_eq_true, if_false]
    cases c.vocabulary.findStop (t :: ts) with
    | some matched => rfl
    | none =>
      cases c.enabled with
      | true => cases c.vocabulary.residual (t :: ts) <;> rfl
      | false => rfl

theorem classify_isStop (c : Classifier) (text : String) :
    (c.classify text).isStop = (c.vocabulary.findStop (tokenize text)).isSome := by
  rw [classify, classifyTokens_eq]
  cases c.vocabulary.findStop (tokenize text) with
  | some matched => rfl
  | none => exact Classification.ofWords_isStop _

theorem classify_isStop_iff (c : Classifier) (hv : c.vocabulary.WellFormed) (text : String) :
    (c.classify text).isStop = true ↔
      ∃ run, run <:+: tokenize text ∧ c.vocabulary.isStop (joinWords run) = true := by
  rw [classify_isStop, Option.isSome_iff_ne_none, ne_eq, Vocabulary.findStop_eq_none_iff hv]
  simp only [Classical.not_forall, Bool.not_eq_false, exists_prop]

theorem classify_eq_stopCommand_iff (c : Classifier) (hv : c.vocabulary.WellFormed)
    (text matched : String) : c.classify text = .stopCommand matched ↔
      c.vocabulary.FirstStop (tokenize text) matched := by
  rw [← Vocabulary.findStop_eq_some_iff hv, classify, classifyTokens_eq]
  cases c.vocabulary.findStop (tokenize text) with
  | some first => simp
  | none =>
    constructor
    · intro h
      have hs := congrArg Classification.isStop h
      rw [Classification.ofWords_isStop] at hs
      exact absurd hs Bool.false_ne_true
    · intro h
      simp at h

theorem classify_of_isStop_eq_false (c : Classifier) (text : String)
    (h : (c.classify text).isStop = false) : c.classify text =
      .ofWords (if c.enabled then c.vocabulary.residual (tokenize text) else tokenize text) := by
  rw [classify_isStop, Option.isSome_eq_false_iff, Option.isNone_iff_eq_none] at h
  rw [classify, classifyTokens_eq, h]

/-- Everything there is to say of a classification, in terms of runs of words only. -/
theorem classify_by_segments (c : Classifier) (hv : c.vocabulary.Reachable) (text : String) :
    ((c.classify text).isStop = true ↔
      ∃ run, run <:+: tokenize text ∧ c.vocabulary.isStop (joinWords run) = true) ∧
    (∀ matched, c.classify text = .stopCommand matched ↔
      c.vocabulary.FirstStop (tokenize text) matched) ∧
    ((c.classify text).isStop = false → c.enabled = true →
      ∃ segments, c.vocabulary.Segmentation (tokenize text) segments ∧
        (∀ other, c.vocabulary.Segmentation (tokenize text) other → other = segments) ∧
        c.classify text = .ofWords (segments.filterMap Segment.leftOver) ∧
        (segments.filterMap Segment.leftOver).Sublist (tokenize text) ∧
        ∀ t ∈ segments.filterMap Segment.leftOver, c.vocabulary.isFiller t = false) ∧
    ((c.classify text).isStop = false → c.enabled = false →
      c.classify text = .ofWords (tokenize text)) := by
  have hw := hv.wellFormed
  refine ⟨classify_isStop_iff c hw text, classify_eq_stopCommand_iff c hw text, ?_, ?_⟩
  · intro hs he
    obtain ⟨segments, hseg, hleft⟩ := Vocabulary.residualFrom_segmentation hw 0 (tokenize text)
    refine ⟨segments, hseg, fun other ho => Vocabulary.segmentation_unique ho hseg, ?_,
      Vocabulary.segmentation_sublist hseg, Vocabulary.segmentation_leftOver hseg⟩
    rw [classify_of_isStop_eq_false c text hs, he, if_pos rfl, hleft]
    rfl
  · intro hs he
    simpa [he] using classify_of_isStop_eq_false c text hs

/-- A filler taken first leaves the words of a longer one that overlaps it. -/
theorem classify_by_segments_overlap :
    let v : Vocabulary := ⟨[("you know", none), ("know what else", none)], ["hold on"], 3, 2⟩
    let c : Classifier := ⟨v, true⟩
    v.Reachable ∧ c.classify "You know what else?" = .meaningful ["what", "else"] ∧
      ∃ segments, v.Segmentation (tokenize "You know what else?") segments ∧
        c.classify "You know what else?" = .ofWords (segments.filterMap Segment.leftOver) := by
  intro v c
  have hb : Vocabulary.build [(none, "You know")] ["Hold on!"] =
      .ok ⟨[("you know", none)], ["hold on"], 2, 2⟩ := by rfl
  have hl : (Vocabulary.addFillers ⟨[("you know", none)], ["hold on"], 2, 2⟩
      ["Know: what else"]).1 = v := by decide +kernel
  have hv : v.Reachable := hl ▸ .extended ["Know: what else"] (.built hb)
  obtain ⟨segments, hs, _, hc, _⟩ :=
    (classify_by_segments c hv "You know what else?").2.2.1 (by decide +kernel) rfl
  exact ⟨hv, by decide +kernel, segments, hs, hc⟩

end Classifier

end BargeIn
