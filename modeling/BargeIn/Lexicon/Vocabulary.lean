import BargeIn.Fault
import BargeIn.Language
import BargeIn.Text.Words

/-!
# Vocabulary

Filler phrases and stop phrases in normal form. A filler keeps the language it was first listed
under. Fillers can be added later, stops cannot, and no phrase is ever both. The longest phrase
of each kind bounds the search for a match.
-/

set_option autoImplicit false

namespace BargeIn

open Text

structure Vocabulary where
  fillers : List (String × Option Language)
  stops : List String
  longestFiller : Nat
  longestStop : Nat
deriving Repr, DecidableEq

namespace Vocabulary

def empty : Vocabulary := ⟨[], [], 0, 0⟩

def isFiller (v : Vocabulary) (entry : String) : Bool :=
  v.fillers.any (·.1 == entry)

def isStop (v : Vocabulary) (entry : String) : Bool :=
  v.stops.contains entry

def fillerLanguage (v : Vocabulary) (entry : String) : Option Language :=
  (v.fillers.lookup entry).join

def fillerCount (v : Vocabulary) : Nat := v.fillers.length

def stopCount (v : Vocabulary) : Nat := v.stops.length

def phraseLength (entry : String) : Nat :=
  entry.toList.count ' ' + 1

def longestMatch (known : String → Bool) (tokens : List String) : Nat → Option Nat
  | 0 => none
  | bound + 1 =>
    if bound < tokens.length && known (joinWords (tokens.take (bound + 1))) then some (bound + 1)
    else longestMatch known tokens bound

def matchFiller (v : Vocabulary) (tokens : List String) : Option Nat :=
  longestMatch v.isFiller tokens v.longestFiller

def matchStop (v : Vocabulary) (tokens : List String) : Option String :=
  (longestMatch v.isStop tokens v.longestStop).map fun n => joinWords (tokens.take n)

structure OutOfRange where
  start : Nat
  stop : Nat
  available : Nat
deriving Repr, DecidableEq

def window (tokens : List String) (start stop : Nat) : Except OutOfRange (List String) :=
  if start ≤ stop ∧ stop ≤ tokens.length then .ok (tokens.extract start stop)
  else .error ⟨start, stop, tokens.length⟩

def searchAt (known : String → Bool) (tokens : List String) (start : Nat) :
    Nat → Except OutOfRange (Option Nat)
  | 0 => .ok none
  | length + 1 => do
    let phrase ← window tokens start (start + (length + 1))
    if known (joinWords phrase) then .ok (some (length + 1))
    else searchAt known tokens start length

/-- The length of the longest known phrase of at most `bound` words that begins at an index. No
window reaches beyond the tokens, and an index past the end has none at all. -/
def longestMatchAt (known : String → Bool) (tokens : List String) (start bound : Nat) :
    Except OutOfRange (Option Nat) :=
  searchAt known tokens start (min bound (tokens.length - start))

def matchFillerAt (v : Vocabulary) (tokens : List String) (start : Nat) :
    Except OutOfRange (Option Nat) :=
  longestMatchAt v.isFiller tokens start v.longestFiller

def matchStopAt (v : Vocabulary) (tokens : List String) (start : Nat) :
    Except OutOfRange (Option String) := do
  match ← longestMatchAt v.isStop tokens start v.longestStop with
  | some n =>
    let phrase ← window tokens start (start + n)
    return some (joinWords phrase)
  | none => return none

def insertFiller (v : Vocabulary) (entry : String) (language : Option Language) :
    Vocabulary × Bool :=
  if v.isFiller entry then (v, false)
  else ({ v with
    fillers := v.fillers ++ [(entry, language)]
    longestFiller := max v.longestFiller (phraseLength entry) }, true)

def insertStop (v : Vocabulary) (entry : String) : Vocabulary :=
  if v.isStop entry then v
  else { v with
    stops := v.stops ++ [entry]
    longestStop := max v.longestStop (phraseLength entry) }

def listFiller (v : Vocabulary) (listed : Option Language × String) : Vocabulary :=
  match normalizeEntry listed.2 with
  | some entry => (v.insertFiller entry listed.1).1
  | none => v

def listStop (v : Vocabulary) (listed : String) : Vocabulary :=
  match normalizeEntry listed with
  | some entry => v.insertStop entry
  | none => v

def collect (fillers : List (Option Language × String)) (stops : List String) : Vocabulary :=
  stops.foldl listStop (fillers.foldl listFiller empty)

/-- Phrases that normalize to nothing are dropped; a phrase of both kinds is refused. -/
def build (fillers : List (Option Language × String)) (stops : List String) :
    Except Ambiguity Vocabulary :=
  let v := collect fillers stops
  match v.stops.find? v.isFiller with
  | some entry => .error ⟨entry⟩
  | none => .ok v

def addFiller (soFar : Vocabulary × List String) (entry : String) : Vocabulary × List String :=
  let (next, added) := soFar
  if next.isStop entry then soFar
  else
    let (next, isNew) := next.insertFiller entry none
    (next, if isNew then added ++ [entry] else added)

/-- Adds phrases as fillers and counts those that are new. Without any the vocabulary stays the
one it was. -/
def addFillers (v : Vocabulary) (words : List String) : Vocabulary × Nat :=
  let entries := words.filterMap normalizeEntry
  if entries.isEmpty then (v, 0)
  else
    let (next, added) := entries.foldl addFiller (v, [])
    (if added.isEmpty then v else next, added.length)

def sortEntries (entries : List String) : List String :=
  entries.mergeSort fun a b => !(b < a)

def fillerEntries (v : Vocabulary) : List String :=
  sortEntries (v.fillers.map (·.1))

def stopEntries (v : Vocabulary) : List String :=
  sortEntries v.stops

end Vocabulary

end BargeIn
