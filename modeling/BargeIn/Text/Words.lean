import BargeIn.Text.Alphanumeric
import BargeIn.Text.Blank
import BargeIn.Text.Case
import BargeIn.Text.Grapheme

/-!
# Spoken words

The normal form in which speech is compared with a lexicon: small letters, and only the clusters
that begin with a letter, a digit, a low line or a blank. Clusters and not single code points are
kept or dropped, so a vowel sign stays with its letter.
-/

set_option autoImplicit false

namespace BargeIn.Text

def startsKept : List Char → Bool
  | [] => false
  | c :: _ => isAlphanumeric c || c == '_' || isBlank c

def normalizeChars (cs : List Char) : List Char :=
  ((Grapheme.clusters (lowerChars cs)).filter startsKept).flatten

def normalize (s : String) : String :=
  String.ofList (normalizeChars s.toList)

def tokenize (s : String) : List String :=
  (words (normalizeChars s.toList)).map String.ofList

def joinWords (tokens : List String) : String :=
  String.intercalate " " tokens

/-- The words of the normal form with single spaces between them; nothing if there are none. -/
def normalizeEntry (s : String) : Option String :=
  match tokenize s with
  | [] => none
  | tokens => some (joinWords tokens)

end BargeIn.Text
