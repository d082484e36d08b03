import BargeIn.Lexicon.Vocabulary

/-!
# What a piece of speech amounts to

A stop phrase anywhere in the speech makes it a stop command. Otherwise the speech is read from
left to right, each time passing over the longest filler; the words that remain make it
meaningful, and without any it is filler only.
-/

set_option autoImplicit false

namespace BargeIn

open Text

inductive Classification
  | onlyFiller
  | stopCommand (matched : String)
  | meaningful (residual : List String)
deriving Repr, DecidableEq

namespace Classification

def label : Classification → String
  | .onlyFiller => "only_filler"
  | .stopCommand _ => "stop_command"
  | .meaningful _ => "meaningful_content"

def residual : Classification → List String
  | .meaningful words => words
  | _ => []

def isOnlyFiller : Classification → Bool
  | .onlyFiller => true
  | _ => false

def isStop : Classification → Bool
  | .stopCommand _ => true
  | _ => false

end Classification

namespace Vocabulary

def findStop (v : Vocabulary) : List String → Option String
  | [] => none
  | t :: ts => (v.matchStop (t :: ts)).or (v.findStop ts)

/-- The words left over when fillers are passed over, the longest first. The first `passed` tokens
belong to a filler already. -/
def residualFrom (v : Vocabulary) : Nat → List String → List String
  | _, [] => []
  | passed + 1, _ :: ts => v.residualFrom passed ts
  | 0, t :: ts =>
    match v.matchFiller (t :: ts) with
    | some n => v.residualFrom (n - 1) ts
    | none => t :: v.residualFrom 0 ts

def residual (v : Vocabulary) (tokens : List String) : List String :=
  v.residualFrom 0 tokens

end Vocabulary

structure Classifier where
  vocabulary : Vocabulary
  enabled : Bool
deriving Repr, DecidableEq

namespace Classifier

def classifyTokens (c : Classifier) (tokens : List String) : Classification :=
  if tokens.isEmpty then .onlyFiller
  else match c.vocabulary.findStop tokens with
    | some matched => .stopCommand matched
    | none =>
      if c.enabled then
        match c.vocabulary.residual tokens with
        | [] => .onlyFiller
        | words => .meaningful words
      else .meaningful tokens

/-- A disabled classifier still knows stop commands and empty speech; all else is meaningful
to it. -/
def classify (c : Classifier) (text : String) : Classification :=
  c.classifyTokens (tokenize text)

def isOnlyFiller (c : Classifier) (text : String) : Bool :=
  (c.classify text).isOnlyFiller

def addIgnoredWords (c : Classifier) (words : List String) : Classifier × Nat :=
  let (vocabulary, added) := c.vocabulary.addFillers words
  ({ c with vocabulary }, added)

def umAndStop : Classifier :=
  ⟨⟨[("um", none)], ["stop"], 1, 1⟩, true⟩

end Classifier

end BargeIn
