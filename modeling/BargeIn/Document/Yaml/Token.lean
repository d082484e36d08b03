import BargeIn.Document.Yaml.Scalar
import BargeIn.Text.Utf8

/-!
# YAML tokens

The tokens of a YAML document. Where a block collection begins and ends is not written but seen
from the indentation, and that a text is a key is seen only from the colon behind it; the tokens
for both are put in where they belong.
-/

set_option autoImplicit false

namespace BargeIn.Document.Yaml

inductive Token
  | directive (words : List String)
  | documentStart
  | documentEnd
  | blockSequence
  | blockMapping
  | blockEnd
  | flowSequence
  | flowSequenceEnd
  | flowMapping
  | flowMappingEnd
  | blockEntry
  | flowEntry
  | key
  | value
  | alias (name : String)
  | anchor (name : String)
  | tag (handle suffix : String)
  | scalar (text : String) (plain : Bool)
deriving Repr, DecidableEq

structure Place where
  rest : List Char
  line : Nat := 0
  column : Nat := 0
  index : Nat := 0

namespace Place

def skip (p : Place) : Place :=
  match p.rest with
  | [] => p
  | '\n' :: cs => ⟨cs, p.line + 1, 0, p.index + 1⟩
  | _ :: cs => ⟨cs, p.line, p.column + 1, p.index + 1⟩

def skipMany : Nat → Place → Place
  | 0, p => p
  | n + 1, p => skipMany n p.skip

end Place

/-- Where a key on a single line may have begun, and the number of tokens before it. It has to
be a key if it stands where the next entry of a block mapping would. -/
structure KeyPlace where
  position : Nat
  line : Nat
  column : Nat
  index : Nat
  required : Bool

structure Scanner where
  place : Place
  tokens : Array Token := #[]
  indent : Int := -1
  outerIndents : List Int := []
  keys : List (Option KeyPlace) := [none]
  keyAllowed : Bool := true

namespace Scanner

def inFlow (s : Scanner) : Bool :=
  1 < s.keys.length

def emit (s : Scanner) (token : Token) : Scanner :=
  { s with tokens := s.tokens.push token }

def advance (s : Scanner) (n : Nat) : Scanner :=
  { s with place := s.place.skipMany n }

def dropKey (s : Scanner) : Option Scanner :=
  match s.keys with
  | some key :: outer => if key.required then none else some { s with keys := none :: outer }
  | _ => some s

def markKey (s : Scanner) : Option Scanner :=
  if s.keyAllowed then
    s.dropKey.map fun s =>
      { s with
        keys := some {
          position := s.tokens.size
          line := s.place.line
          column := s.place.column
          index := s.place.index
          required := !s.inFlow && s.indent = s.place.column } :: s.keys.drop 1 }
  else some s

/-- A key stands on one line and is not too long. -/
def forgetStaleKeys (s : Scanner) : Option Scanner :=
  let checked := s.keys.mapM fun key =>
    match key with
    | some key =>
      if key.line < s.place.line || key.index + 1024 < s.place.index then
        if key.required then none else some none
      else some (some key)
    | none => some none
  checked.map fun keys => { s with keys }

def unroll (column : Int) : List Int → Scanner → Scanner
  | outer, s =>
    if s.inFlow || s.indent ≤ column then s
    else match outer with
      | [] => { s.emit .blockEnd with indent := -1, outerIndents := [] }
      | next :: further =>
        unroll column further { s.emit .blockEnd with indent := next, outerIndents := further }

def unrollTo (s : Scanner) (column : Int) : Scanner :=
  unroll column s.outerIndents s

def roll (s : Scanner) (column : Nat) (position : Nat) (token : Token) : Scanner :=
  if s.inFlow || (column : Int) ≤ s.indent then s
  else { s with
    tokens := s.tokens.insertIdxIfInBounds position token
    indent := column
    outerIndents := s.indent :: s.outerIndents }

/-- Passes over blanks, comments, empty lines and a byte order mark at the beginning of a line. A
new line may begin with a key. -/
def skipGap : Nat → Scanner → Scanner
  | 0, s => s
  | fuel + 1, s =>
    match s.place.rest with
    | ' ' :: _ => skipGap fuel (s.advance 1)
    | '\ufeff' :: _ => if s.place.column = 0 then skipGap fuel (s.advance 1) else s
    | '\t' :: _ => if s.inFlow || !s.keyAllowed then skipGap fuel (s.advance 1) else s
    | '#' :: cs => skipGap fuel (s.advance (1 + (cs.takeWhile (· != '\n')).length))
    | '\n' :: _ => skipGap fuel { s.advance 1 with keyAllowed := s.keyAllowed || !s.inFlow }
    | _ => s

def indicator (s : Scanner) (token : Token) (n : Nat) (keyAllowed : Bool) : Option Scanner :=
  s.dropKey.map fun s => { (s.advance n).emit token with keyAllowed }

def documentMark (s : Scanner) (token : Token) : Option Scanner :=
  (s.unrollTo (-1)).indicator token 3 false

def directive (s : Scanner) : Option Scanner :=
  let line := s.place.rest.takeWhile (· != '\n')
  let content := (line.drop 1).takeWhile (· != '#')
  let words := (String.ofList content).splitOn " "
  (s.unrollTo (-1)).indicator (.directive (words.filter (! ·.isEmpty))) line.length false

def openFlow (s : Scanner) (token : Token) : Option Scanner :=
  s.markKey.map fun s =>
    { (s.advance 1).emit token with keys := none :: s.keys, keyAllowed := true }

def closeFlow (s : Scanner) (token : Token) : Option Scanner :=
  s.dropKey.map fun s =>
    { (s.advance 1).emit token with
      keys := if s.inFlow then s.keys.drop 1 else s.keys
      keyAllowed := false }

def blockIndicator (s : Scanner) (collection token : Token) (keyAllowed : Bool) :
    Option Scanner :=
  if s.inFlow then s.indicator token 1 keyAllowed
  else if s.keyAllowed then
    (s.roll s.place.column s.tokens.size collection).indicator token 1 keyAllowed
  else none

/-- A colon: what stands before it on its line is a key, or it follows a key of its own. -/
def value (s : Scanner) : Option Scanner :=
  match s.keys with
  | some key :: outer =>
    let s := { s with tokens := s.tokens.insertIdxIfInBounds key.position .key }
    let s := s.roll key.column key.position .blockMapping
    some { (s.advance 1).emit .value with keys := none :: outer, keyAllowed := false }
  | _ =>
    if s.inFlow then some { (s.advance 1).emit .value with keyAllowed := false }
    else if s.keyAllowed then
      some ((s.roll s.place.column s.tokens.size .blockMapping).advance 1 |>.emit .value)
    else none

def isNameChar (c : Char) : Bool :=
  c.isAlphanum || c == '_' || c == '-'

def endsName : List Char → Bool
  | [] => true
  | c :: _ => isBlank c || c == '\n' || "?:,]\x7d%@`".toList.contains c

def reference (s : Scanner) (token : String → Token) : Option Scanner :=
  let name := (s.place.rest.drop 1).takeWhile isNameChar
  if name.isEmpty || !endsName (s.place.rest.drop (1 + name.length)) then none
  else s.markKey.map fun s =>
    { (s.advance (1 + name.length)).emit (token (String.ofList name)) with keyAllowed := false }

def isTagChar (c : Char) : Bool :=
  c.isAlphanum || "-;/?:@&=+$.~*'()%_".toList.contains c

def tagOctets? : List Char → Option (List UInt8)
  | [] => some []
  | '%' :: a :: b :: cs => do
    let octet ← Number.natural? 16 [a, b]
    return octet.toUInt8 :: (← tagOctets? cs)
  | '%' :: _ => none
  | c :: cs => (tagOctets? cs).map (c.toNat.toUInt8 :: ·)

def tagText? (written : List Char) : Option String :=
  (tagOctets? written).bind Text.Utf8.decode?

def tagParts? (cs : List Char) : Option (String × String × Nat) :=
  match cs with
  | '!' :: '<' :: rest =>
    let uri := rest.takeWhile fun c => isTagChar c || "!,[]".toList.contains c
    match rest.drop uri.length with
    | '>' :: _ =>
      if uri.isEmpty then none else (tagText? uri).map fun text => ("", text, uri.length + 3)
    | _ => none
  | '!' :: rest =>
    let name := rest.takeWhile isNameChar
    match rest.drop name.length with
    | '!' :: more =>
      let suffix := more.takeWhile fun c => isTagChar c || c == '!'
      if suffix.isEmpty then none
      else (tagText? suffix).map fun text =>
        (String.ofList ('!' :: name ++ ['!']), text, name.length + suffix.length + 2)
    | _ =>
      let suffix := rest.takeWhile fun c => isTagChar c || c == '!'
      (tagText? suffix).map fun text => ("!", text, suffix.length + 1)
  | _ => none

def tag (s : Scanner) : Option Scanner := do
  let (handle, suffix, n) ← tagParts? s.place.rest
  let s ← s.markKey
  let s := { (s.advance n).emit (.tag handle suffix) with keyAllowed := false }
  if wordEnds s.place.rest || (s.inFlow && s.place.rest.head? = some ',') then some s else none

def quoted (s : Scanner) (read : List Char → Option (String × Nat)) : Option Scanner := do
  let s ← s.markKey
  let (text, taken) ← read (s.place.rest.drop 1)
  return { (s.advance (1 + taken)).emit (.scalar text false) with keyAllowed := false }

def blockScalar (s : Scanner) (literal : Bool) : Option Scanner := do
  let s ← s.dropKey
  let (text, taken) ← block? literal s.indent (s.place.rest.drop 1)
  return { (s.advance (1 + taken)).emit (.scalar text false) with keyAllowed := true }

def plain (s : Scanner) : Option Scanner := do
  let s ← s.markKey
  let (text, taken, broken) ←
    plain? s.inFlow (s.indent + 1).toNat [] .none s.place.column 0 s.place.rest
  return { (s.advance taken).emit (.scalar text true) with keyAllowed := broken }

def reserved : List Char := "-?:,[]\x7b\x7d#&*!|>'\"%@`".toList

def startsPlain (flow : Bool) (c : Char) (after : List Char) : Bool :=
  !(isBlank c || reserved.contains c) || (c == '-' && !(after.head?.any isBlank)) ||
    (!flow && (c == '?' || c == ':') && !wordEnds after)

def next (s : Scanner) (c : Char) (after : List Char) : Option Scanner :=
  if s.place.column = 0 && c == '%' then s.directive
  else if s.place.column = 0 && separates (c :: after) then
    s.documentMark (if c == '-' then .documentStart else .documentEnd)
  else match c with
    | '[' => s.openFlow .flowSequence
    | '{' => s.openFlow .flowMapping
    | ']' => s.closeFlow .flowSequenceEnd
    | '}' => s.closeFlow .flowMappingEnd
    | ',' => s.indicator .flowEntry 1 true
    | '*' => s.reference .alias
    | '&' => s.reference .anchor
    | '!' => s.tag
    | '\'' => s.quoted (singleQuoted? [] .none 0)
    | '"' => s.quoted (doubleQuoted? [] .none 0 0)
    | _ =>
      if c == '-' && wordEnds after then s.blockIndicator .blockSequence .blockEntry true
      else if c == '?' && (s.inFlow || wordEnds after) then
        s.blockIndicator .blockMapping .key (!s.inFlow)
      else if c == ':' && (s.inFlow || wordEnds after) then s.value
      else if c == '|' && !s.inFlow then s.blockScalar true
      else if c == '>' && !s.inFlow then s.blockScalar false
      else if startsPlain s.inFlow c after then s.plain
      else none

def run : Nat → Scanner → Option (Array Token)
  | 0, _ => none
  | fuel + 1, s =>
    let s := s.skipGap (s.place.rest.length + 1)
    match s.forgetStaleKeys with
    | none => none
    | some s =>
      match s.place.rest with
      | [] => ((s.unrollTo (-1)).dropKey).map (·.tokens)
      | c :: after =>
        match (s.unrollTo s.place.column).next c after with
        | some s => run fuel s
        | none => none

end Scanner

def unifyBreaks : List Char → List Char
  | '\r' :: '\n' :: cs => '\n' :: unifyBreaks cs
  | '\r' :: cs => '\n' :: unifyBreaks cs
  | c :: cs => c :: unifyBreaks cs
  | [] => []

def tokens? (cs : List Char) : Option (List Token) :=
  let cs := unifyBreaks cs
  (Scanner.run (cs.length + 1) { place := { rest := cs } }).map (·.toList)

end BargeIn.Document.Yaml
