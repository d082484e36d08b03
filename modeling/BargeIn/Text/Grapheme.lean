import BargeIn.Text.Grapheme.Tables

/-!
# Character clusters

Splits a text into extended grapheme clusters. A scanner remembers what the boundary rules ask
of the text before a code point: the kind of the last one, whether an odd number of regional
indicators ends there, and how far a fused pictograph or a conjunct has got.
-/

set_option autoImplicit false

namespace BargeIn.Text.Grapheme

inductive Kind
  | carriageReturn | lineFeed | control | extend | joiner | spacingMark | prepended | regional
  | leading | vowel | trailing | openSyllable | closedSyllable | pictograph | other
deriving Repr, DecidableEq

def Kind.of (c : Char) : Kind :=
  let n := c.toNat
  if n = 0xD then .carriageReturn
  else if n = 0xA then .lineFeed
  else if controls.contains n then .control
  else if n = 0x200D then .joiner
  else if extenders.contains n then .extend
  else if spacingMarks.contains n then .spacingMark
  else if prependedSigns.contains n then .prepended
  else if 0x1F1E6 ≤ n && n ≤ 0x1F1FF then .regional
  else if leadingJamo.contains n then .leading
  else if vowelJamo.contains n then .vowel
  else if trailingJamo.contains n then .trailing
  else if 0xAC00 ≤ n && n ≤ 0xD7A3 then
    if (n - 0xAC00) % 28 = 0 then .openSyllable else .closedSyllable
  else if pictographs.contains n then .pictograph
  else .other

def Kind.isControl : Kind → Bool
  | .carriageReturn | .lineFeed | .control => true
  | _ => false

/-- How much of a fused pictograph ends here: nothing, a pictograph with its marks, or that and
a joiner. -/
inductive Fusion
  | absent | open | joined
deriving Repr, DecidableEq

/-- How much of a conjunct ends here: nothing, a consonant with its marks, or that with a
linker among the marks. -/
inductive Conjunct
  | absent | open | linked
deriving Repr, DecidableEq

structure Scan where
  last : Kind
  oddRegional : Bool
  fusion : Fusion
  conjunct : Conjunct
deriving Repr, DecidableEq

namespace Scan

def fuse (previous : Fusion) : Kind → Fusion
  | .pictograph => .open
  | .extend => if previous = .open then .open else .absent
  | .joiner => if previous = .open then .joined else .absent
  | _ => .absent

def conjoin (previous : Conjunct) (c : Char) (kind : Kind) : Conjunct :=
  if conjunctConsonants.contains c.toNat then .open
  else if previous = .absent then .absent
  else if conjunctLinkers.contains c.toNat then .linked
  else match kind with
    | .extend => if c = '\u200C' then .absent else previous
    | .joiner => previous
    | _ => .absent

def start (c : Char) : Scan :=
  let kind := Kind.of c
  ⟨kind, kind == .regional, fuse .absent kind, conjoin .absent c kind⟩

def next (s : Scan) (c : Char) : Scan :=
  let kind := Kind.of c
  ⟨kind, kind == .regional && !(s.last == .regional && s.oddRegional), fuse s.fusion kind,
    conjoin s.conjunct c kind⟩

def holds (s : Scan) (c : Char) : Bool :=
  let kind := Kind.of c
  if s.last = .carriageReturn && kind = .lineFeed then true
  else if s.last.isControl || kind.isControl then false
  else match s.last, kind with
    | _, .extend | _, .joiner | _, .spacingMark => true
    | .prepended, _ => true
    -- The parts of a Hangul syllable, in their order.
    | .leading, .leading | .leading, .vowel | .leading, .openSyllable
    | .leading, .closedSyllable => true
    | .openSyllable, .vowel | .openSyllable, .trailing | .vowel, .vowel
    | .vowel, .trailing => true
    | .closedSyllable, .trailing | .trailing, .trailing => true
    -- Every two regional indicators are a flag.
    | .regional, .regional => s.oddRegional
    | _, .pictograph => s.fusion = .joined
    | _, _ => s.conjunct = .linked && conjunctConsonants.contains c.toNat

end Scan

def clustersFrom (s : Scan) : List Char → List Char × List (List Char)
  | [] => ([], [])
  | c :: cs =>
    let (rest, later) := clustersFrom (s.next c) cs
    if s.holds c then (c :: rest, later) else ([], (c :: rest) :: later)

def clusters : List Char → List (List Char)
  | [] => []
  | c :: cs =>
    let (rest, later) := clustersFrom (Scan.start c) cs
    (c :: rest) :: later

end BargeIn.Text.Grapheme
