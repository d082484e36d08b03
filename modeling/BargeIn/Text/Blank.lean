/-!
# Sets of code points and blank space

A set of code points is a list of closed intervals in increasing order, so membership stops at the
first interval that begins beyond the code point asked for. Those with the property White_Space
have two uses: trimming a text and splitting it into words. A word holds no blank and is never
empty.
-/

set_option autoImplicit false

namespace BargeIn.Text

abbrev CodeSet := List (Nat × Nat)

namespace CodeSet

def contains : CodeSet → Nat → Bool
  | [], _ => false
  | (lo, hi) :: rest, n => if n < lo then false else if n ≤ hi then true else contains rest n

end CodeSet

def blank : CodeSet :=
  [(0x9, 0xD), (0x20, 0x20), (0x85, 0x85), (0xA0, 0xA0), (0x1680, 0x1680), (0x2000, 0x200A),
   (0x2028, 0x2029), (0x202F, 0x202F), (0x205F, 0x205F), (0x3000, 0x3000)]

def isBlank (c : Char) : Bool :=
  blank.contains c.toNat

def trimChars (cs : List Char) : List Char :=
  ((cs.dropWhile isBlank).reverse.dropWhile isBlank).reverse

def trim (s : String) : String :=
  String.ofList (trimChars s.toList)

def wordsFrom : List Char → List Char × List (List Char)
  | [] => ([], [])
  | c :: cs =>
    let (word, later) := wordsFrom cs
    if isBlank c then ([], if word.isEmpty then later else word :: later)
    else (c :: word, later)

def words (cs : List Char) : List (List Char) :=
  let (word, later) := wordsFrom cs
  if word.isEmpty then later else word :: later

end BargeIn.Text
