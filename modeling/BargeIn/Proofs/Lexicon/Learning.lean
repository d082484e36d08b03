import Mathlib.Algebra.GroupWithZero.Nat
import Mathlib.Data.List.Nodup
import Mathlib.Tactic.Tauto
import BargeIn.Proofs.Lexicon.Vocabulary

/-!
# Learning fillers

A vocabulary learns phrases in batches. What it knows in the end is what it knew before and every
phrase it was ever told, in normal form, less the stop phrases. Nothing depends on the order of
the batches, on how the phrases are spread over them, or on how often a phrase comes.
-/

set_option autoImplicit false

namespace BargeIn.Vocabulary

open Text

def learnAll (v : Vocabulary) : List (List String) → Vocabulary × List Nat
  | [] => (v, [])
  | words :: later =>
    let (next, added) := v.addFillers words
    let (last, counts) := next.learnAll later
    (last, added :: counts)

def Named (words : List String) (entry : String) : Prop :=
  ∃ word ∈ words, normalizeEntry word = some entry

instance (words : List String) (entry : String) : Decidable (Named words entry) :=
  inferInstanceAs (Decidable (∃ word ∈ words, normalizeEntry word = some entry))

theorem named_append (words later : List String) (entry : String) :
    Named (words ++ later) entry ↔ Named words entry ∨ Named later entry := by
  simp only [Named, List.mem_append, or_and_right, exists_or]

theorem named_mono {words later : List String} (h : ∀ word ∈ words, word ∈ later) {entry : String}
    (hn : Named words entry) : Named later entry := by
  obtain ⟨word, hw, he⟩ := hn
  exact ⟨word, h word hw, he⟩

theorem named_congr {words later : List String} (h : ∀ word, word ∈ later ↔ word ∈ words)
    (entry : String) : Named later entry ↔ Named words entry :=
  ⟨named_mono fun word => (h word).mp, named_mono fun word => (h word).mpr⟩

theorem named_flatten (batches : List (List String)) (entry : String) :
    Named batches.flatten entry ↔
      ∃ words ∈ batches, ∃ word ∈ words, normalizeEntry word = some entry := by
  simp only [Named, List.mem_flatten]
  tauto

theorem isFiller_iff (v : Vocabulary) (entry : String) :
    v.isFiller entry = true ↔ entry ∈ v.fillers.map (·.1) := by
  simp [isFiller]

/-- The vocabulary `next` comes of `v` by learning phrases, of which `new` were not known before. -/
structure Learned (v : Vocabulary) (words new : List String) (next : Vocabulary) : Prop where
  fillers : next.fillers = v.fillers ++ new.map (·, none)
  stops : next.stops = v.stops
  nodup : new.Nodup
  mem : ∀ entry, entry ∈ new ↔
    v.isFiller entry = false ∧ v.isStop entry = false ∧ Named words entry

theorem learned_nothing {v : Vocabulary} {words : List String}
    (h : ∀ entry, Named words entry → v.isFiller entry = true ∨ v.isStop entry = true) :
    Learned v words [] v := by
  refine ⟨(List.append_nil _).symm, rfl, .nil, fun entry => ?_⟩
  constructor
  · exact fun hm => absurd hm List.not_mem_nil
  · rintro ⟨hf, hs, hn⟩
    rcases h entry hn with hk | hk <;> simp_all

theorem named_singleton {word entry : String} (h : normalizeEntry word = some entry)
    (e : String) : Named [word] e ↔ e = entry := by
  simp [Named, h, eq_comm]

theorem addFiller_known {v : Vocabulary} {entry : String}
    (h : v.isFiller entry = true ∨ v.isStop entry = true) (added : List String) :
    addFiller (v, added) entry = (v, added) := by
  unfold addFiller
  dsimp only
  split
  case isTrue => rfl
  case isFalse hs =>
    rw [insertFiller, if_pos (h.resolve_right hs)]
    rfl

theorem addFiller_new {v : Vocabulary} {entry : String} (hf : v.isFiller entry = false)
    (hs : v.isStop entry = false) (added : List String) :
    addFiller (v, added) entry = ((v.insertFiller entry none).1, added ++ [entry]) ∧
      (v.insertFiller entry none).1.fillers = v.fillers ++ [(entry, none)] := by
  simp [addFiller, hs, insertFiller, hf]

theorem addFiller_learned (v : Vocabulary) (added : List String) {word entry : String}
    (he : normalizeEntry word = some entry) :
    ∃ new, Learned v [word] new (addFiller (v, added) entry).1 ∧
      (addFiller (v, added) entry).2 = added ++ new := by
  by_cases hknown : v.isFiller entry = true ∨ v.isStop entry = true
  · rw [addFiller_known hknown]
    refine ⟨[], learned_nothing fun e hn => ?_, (List.append_nil added).symm⟩
    rwa [(named_singleton he e).mp hn]
  · obtain ⟨hf, hs⟩ := not_or.mp hknown
    rw [Bool.not_eq_true] at hf hs
    obtain ⟨hadded, hfillers⟩ := addFiller_new hf hs added
    rw [hadded]
    refine ⟨[entry], ⟨hfillers, insertFiller_stops v entry none, by simp, fun e => ?_⟩, rfl⟩
    rw [List.mem_singleton, named_singleton he]
    constructor
    · rintro rfl
      exact ⟨hf, hs, rfl⟩
    · exact fun ⟨_, _, h⟩ => h

section

variable {v next : Vocabulary} {words new : List String}

theorem Learned.isFiller_iff (h : Learned v words new next) (entry : String) :
    next.isFiller entry = true ↔
      v.isFiller entry = true ∨ v.isStop entry = false ∧ Named words entry := by
  have hnew : next.isFiller entry = true ↔ v.isFiller entry = true ∨ entry ∈ new := by
    simp [Vocabulary.isFiller_iff, h.fillers]
  rw [hnew, h.mem]
  cases v.isFiller entry <;> simp

theorem Learned.nothing (h : Learned v words [] next) : Learned v words [] v := by
  refine learned_nothing fun entry hn => ?_
  by_contra hnone
  obtain ⟨hf, hs⟩ := not_or.mp hnone
  rw [Bool.not_eq_true] at hf hs
  exact List.not_mem_nil ((h.mem entry).mpr ⟨hf, hs, hn⟩)

theorem Learned.isStop (h : Learned v words new next) : next.isStop = v.isStop :=
  isStop_congr h.stops

theorem Learned.fillerCount (h : Learned v words new next) :
    next.fillerCount = v.fillerCount + new.length := by
  simp [Vocabulary.fillerCount, h.fillers]

theorem Learned.trans {later new' : List String} {last : Vocabulary}
    (h : Learned v words new next) (h' : Learned next later new' last) :
    Learned v (words ++ later) (new ++ new') last := by
  refine ⟨?_, h'.stops.trans h.stops, ?_, ?_⟩
  · rw [h'.fillers, h.fillers, List.map_append, List.append_assoc]
  · rw [List.nodup_append]
    refine ⟨h.nodup, h'.nodup, ?_⟩
    rintro a ha _ hb rfl
    have hknown : next.isFiller a = true := (h.isFiller_iff a).mpr (.inr ((h.mem a).mp ha).2)
    exact absurd (hknown.symm.trans ((h'.mem a).mp hb).1) (by simp)
  · intro entry
    rw [List.mem_append, h.mem, h'.mem, ← Bool.not_eq_true (next.isFiller entry), h.isFiller_iff,
      h.isStop, named_append, ← Bool.not_eq_true (v.isFiller entry)]
    tauto

theorem lookup_untagged (new : List String) (entry : String) :
    ((new.map (·, (none : Option Language))).lookup entry).join = none := by
  induction new with
  | nil => rfl
  | cons e new ih =>
    rw [List.map_cons, List.lookup_cons]
    split
    · rfl
    · exact ih

theorem fillerLanguage_unknown {v : Vocabulary} {entry : String} (h : v.isFiller entry = false) :
    v.fillerLanguage entry = none := by
  have hl : v.fillers.lookup entry = none := by
    rw [List.lookup_eq_none_iff]
    intro p hp
    rw [bne_iff_ne]
    exact fun he => List.any_eq_false.mp h p hp (beq_iff_eq.mpr he.symm)
  simp [Vocabulary.fillerLanguage, hl]

theorem Learned.fillerLanguage (h : Learned v words new next) (entry : String) :
    next.fillerLanguage entry = v.fillerLanguage entry := by
  unfold Vocabulary.fillerLanguage
  rw [h.fillers, List.lookup_append]
  cases v.fillers.lookup entry with
  | some language => rfl
  | none => exact lookup_untagged new entry

theorem Learned.length_eq {words' new' : List String} {next' : Vocabulary}
    (h : Learned v words new next) (h' : Learned v words' new' next')
    (hw : ∀ word, word ∈ words' ↔ word ∈ words) : new'.length = new.length := by
  apply List.Perm.length_eq
  rw [List.perm_ext_iff_of_nodup h'.nodup h.nodup]
  intro entry
  rw [h'.mem, h.mem, named_congr hw]

end

/-- A batch lists what it adds. -/
theorem foldl_addFiller_learned (v : Vocabulary) (added words : List String) :
    ∃ new, Learned v words new ((words.filterMap normalizeEntry).foldl addFiller (v, added)).1 ∧
      ((words.filterMap normalizeEntry).foldl addFiller (v, added)).2 = added ++ new := by
  induction words generalizing v added with
  | nil => exact ⟨[], learned_nothing (by simp [Named]), (List.append_nil added).symm⟩
  | cons word words ih =>
    cases he : normalizeEntry word with
    | none =>
      rw [List.filterMap_cons_none he]
      obtain ⟨new, h, hadded⟩ := ih v added
      have hblank : Learned v [word] [] v :=
        learned_nothing fun entry hn => by simp [Named, he] at hn
      exact ⟨new, hblank.trans h, hadded⟩
    | some entry =>
      rw [List.filterMap_cons_some he, List.foldl_cons]
      obtain ⟨new, h, hadded⟩ := addFiller_learned v added he
      obtain ⟨new', h', hadded'⟩ := ih (addFiller (v, added) entry).1 (addFiller (v, added) entry).2
      refine ⟨new ++ new', h.trans h', ?_⟩
      rw [← List.append_assoc, ← hadded]
      exact hadded'

theorem addFillers_learned (v : Vocabulary) (words : List String) :
    ∃ new, Learned v words new (v.addFillers words).1 ∧ (v.addFillers words).2 = new.length := by
  obtain ⟨new, h, hadded⟩ := foldl_addFiller_learned v [] words
  rw [List.nil_append] at hadded
  unfold addFillers
  dsimp only
  split
  case isTrue hblank =>
    have hnone : ∀ entry, ¬Named words entry := by
      rintro entry ⟨word, hword, he⟩
      have hmem := List.mem_filterMap.mpr ⟨word, hword, he⟩
      rw [List.isEmpty_iff.mp hblank] at hmem
      exact List.not_mem_nil hmem
    exact ⟨[], learned_nothing fun entry hn => absurd hn (hnone entry), rfl⟩
  case isFalse =>
    rw [hadded]
    refine ⟨new, ?_, rfl⟩
    cases new with
    | nil => exact h.nothing
    | cons entry new => exact h

theorem addFillers_known {v : Vocabulary} {words : List String}
    (h : ∀ entry, Named words entry → v.isFiller entry = true ∨ v.isStop entry = true) :
    v.addFillers words = (v, 0) := by
  have hfold : ∀ entries : List String,
      (∀ entry ∈ entries, v.isFiller entry = true ∨ v.isStop entry = true) →
        entries.foldl addFiller (v, []) = (v, []) := by
    intro entries hentries
    refine List.foldlRecOn (motive := fun soFar => soFar = (v, [])) entries addFiller rfl ?_
    rintro _ rfl entry hentry
    exact addFiller_known (hentries entry hentry) []
  have hwords := hfold (words.filterMap normalizeEntry) fun entry hentry =>
    h entry (List.mem_filterMap.mp hentry)
  simp [addFillers, hwords]

theorem learnAll_learned (v : Vocabulary) (batches : List (List String)) :
    ∃ new, Learned v batches.flatten new (v.learnAll batches).1 ∧
      (v.learnAll batches).2.sum = new.length := by
  induction batches generalizing v with
  | nil => exact ⟨[], learned_nothing (by simp [Named]), rfl⟩
  | cons words later ih =>
    obtain ⟨new, h, hc⟩ := addFillers_learned v words
    obtain ⟨new', h', hc'⟩ := ih (v.addFillers words).1
    refine ⟨new ++ new', h.trans h', ?_⟩
    simp [learnAll, hc, hc']

theorem learnAll_append (v : Vocabulary) (batches later : List (List String)) :
    (v.learnAll (batches ++ later)).1 = ((v.learnAll batches).1.learnAll later).1 := by
  induction batches generalizing v with
  | nil => rfl
  | cons words batches ih => exact ih (v.addFillers words).1

theorem learnAll_length (v : Vocabulary) (batches : List (List String)) :
    (v.learnAll batches).2.length = batches.length := by
  induction batches generalizing v with
  | nil => rfl
  | cons words batches ih => exact congrArg (· + 1) (ih (v.addFillers words).1)

theorem build_disjoint {fillers : List (Option Language × String)} {stops : List String}
    {v : Vocabulary} (h : build fillers stops = .ok v) (entry : String)
    (hf : v.isFiller entry = true) : v.isStop entry = false := by
  simp only [build] at h
  split at h
  case h_1 => simp at h
  case h_2 hnone =>
    obtain rfl := Except.ok.inj h
    rw [← Bool.not_eq_true]
    intro hs
    exact List.find?_eq_none.mp hnone entry (List.contains_iff_mem.mp hs) hf

/-- The fillers after any batches, and what the calls return. -/
theorem fillers_learned {fillers : List (Option Language × String)} {stops : List String}
    {v : Vocabulary} (h : build fillers stops = .ok v) (batches : List (List String)) :
    let last := (v.learnAll batches).1
    let counts := (v.learnAll batches).2
    (∀ entry, last.isFiller entry = true → last.isStop entry = false) ∧
    last.stops = v.stops ∧
    (∀ entry, last.isFiller entry = true ↔ v.isFiller entry = true ∨
      v.isStop entry = false ∧ ∃ words ∈ batches, ∃ word ∈ words,
        normalizeEntry word = some entry) ∧
    (∀ earlier later entry, batches = earlier ++ later →
      let before := (v.learnAll earlier).1
      (before.isFiller entry = true → last.isFiller entry = true) ∧
      last.fillerLanguage entry = if before.isFiller entry then before.fillerLanguage entry
        else none) ∧
    (∀ words, ∃ new : List String,
      (last.addFillers words).1.fillers = last.fillers ++ new.map (·, none) ∧
      new.Nodup ∧ (∀ entry ∈ new, last.isFiller entry = false) ∧
      (last.addFillers words).2 = new.length ∧
      (last.addFillers words).1.fillerCount = last.fillerCount + (last.addFillers words).2) ∧
    counts.length = batches.length ∧ last.fillerCount = v.fillerCount + counts.sum ∧
    (∀ words ∈ batches, last.addFillers words = (last, 0)) ∧
    ∀ batches', (∀ word, word ∈ batches'.flatten ↔ word ∈ batches.flatten) →
      (∀ entry, (v.learnAll batches').1.isFiller entry = last.isFiller entry) ∧
      (v.learnAll batches').2.sum = counts.sum := by
  intro last counts
  obtain ⟨new, hlast, hcounts⟩ := learnAll_learned v batches
  have hcount : counts.sum = new.length := hcounts
  have hknown : ∀ entry, Named batches.flatten entry → last.isFiller entry = true ∨
      last.isStop entry = true := by
    intro entry hn
    rw [hlast.isFiller_iff, hlast.isStop]
    cases v.isStop entry <;> simp [hn]
  refine ⟨?_, hlast.stops, ?_, ?_, ?_, learnAll_length v batches, ?_, ?_, ?_⟩
  · intro entry hf
    rw [hlast.isStop]
    rcases (hlast.isFiller_iff entry).mp hf with hv | ⟨hs, _⟩
    · exact build_disjoint h entry hv
    · exact hs
  · intro entry
    rw [hlast.isFiller_iff, named_flatten]
  · rintro earlier later entry rfl before
    obtain ⟨_, hlater, _⟩ := learnAll_learned before later
    rw [← learnAll_append] at hlater
    refine ⟨fun hf => (hlater.isFiller_iff entry).mpr (.inl hf), ?_⟩
    rw [hlater.fillerLanguage]
    cases hf : before.isFiller entry with
    | true => rfl
    | false => exact fillerLanguage_unknown hf
  · intro words
    obtain ⟨added, hadded, hn⟩ := addFillers_learned last words
    refine ⟨added, hadded.fillers, hadded.nodup, fun e he => ((hadded.mem e).mp he).1, hn, ?_⟩
    rw [hadded.fillerCount, hn]
  · rw [hcount, hlast.fillerCount]
  · intro words hw
    apply addFillers_known
    intro entry hn
    exact hknown entry (named_mono (fun word hword => List.mem_flatten_of_mem hw hword) hn)
  · intro batches' hsame
    obtain ⟨new', hlast', hcounts'⟩ := learnAll_learned v batches'
    refine ⟨fun entry => ?_, ?_⟩
    · rw [Bool.eq_iff_iff, hlast'.isFiller_iff, hlast.isFiller_iff]
      rw [named_congr hsame]
    · rw [hcounts', hcount, hlast.length_eq hlast' hsame]

/-- A known filler, a repetition, a blank and a stop phrase add nothing. -/
theorem fillers_learned_once :
    let v : Vocabulary := ⟨[("um", some .english), ("you know", none)], ["stop"], 2, 1⟩
    let batches := [["Um!", "well", "WELL?", "..."], ["Stop", "hold  on", "well"]]
    build [(some .english, "Um"), (none, "you know"), (some .french, "um!")] ["STOP"] = .ok v ∧
      v.learnAll batches = (⟨[("um", some .english), ("you know", none), ("well", none),
        ("hold on", none)], ["stop"], 2, 1⟩, [1, 1]) ∧
      ((v.learnAll batches).1.addFillers ["Stop", "hold  on", "well"]).2 = 0 := by
  intro v batches
  have hv : build [(some .english, "Um"), (none, "you know"), (some .french, "um!")] ["STOP"] =
      .ok v := by decide +kernel
  obtain ⟨_, _, _, _, _, _, _, hagain, _⟩ := fillers_learned hv batches
  refine ⟨hv, by decide +kernel, ?_⟩
  rw [hagain ["Stop", "hold  on", "well"] (by decide)]

end BargeIn.Vocabulary
