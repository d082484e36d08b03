import BargeIn.Document.Readable
import BargeIn.Number.Decimal
import BargeIn.Text.Quotation

/-!
# JSON documents

A strict reader. It works in two steps, from characters to tokens and from tokens to a value, so
that no depth of nesting is too great for it. Values that nobody asks for are held only to the
grammar: their numbers may lie outside the binary format, and their escapes may name half of a
surrogate pair. `readSound?` holds the whole document to all the rules.
-/

set_option autoImplicit false

namespace BargeIn.Document

open Number

namespace Json

structure Numeral where
  negative : Bool
  whole : List Char
  part : List Char
  exponent : Int
  plain : Bool
deriving Repr, DecidableEq

/-- A quoted text; none if an escape in it names half of a surrogate pair. -/
abbrev Quoted := Option String

inductive Scalar
  | null
  | bool (value : Bool)
  | number (numeral : Numeral)
  | text (quoted : Quoted)
deriving Repr, DecidableEq

inductive Token
  | scalar (value : Scalar)
  | openArray
  | closeArray
  | openObject
  | closeObject
  | comma
  | colon
deriving Repr, DecidableEq

end Json

inductive Json
  | scalar (value : Json.Scalar)
  | array (items : List Json)
  | object (members : List (Json.Quoted × Json))
deriving Repr, Inhabited

namespace Json

/-! ## Numbers -/

namespace Numeral

def absorb : Nat → List Char → Nat × Nat
  | n, [] => (n, 0)
  | n, c :: cs =>
    let next := 10 * n + digitValue c
    if next < twoTo 64 then
      let (total, taken) := absorb next cs
      (total, taken + 1)
    else (n, 0)

/-- The significand and the power of ten it is to be scaled by; digits beyond the 64 bits of the
significand are not looked at. -/
def scaled (n : Numeral) : Nat × Int :=
  let (high, takenWhole) := absorb 0 n.whole
  let (all, takenPart) := absorb high n.part
  (all, (n.whole.length - takenWhole : Nat) - takenPart + n.exponent)

def integer? (n : Numeral) : Option Int :=
  let value := digitsValue n.whole
  if n.plain then
    if n.negative then
      if 0 < value && value ≤ twoTo 63 then some (-(value : Int)) else none
    else if value < twoTo 64 then some value else none
  else none

/-- Multiplies by a power of ten in steps of at most 10³⁰⁸, each of which is rounded. -/
def scale? (x : Binary64) (exponent : Int) : Nat → Option Binary64
  | 0 => some x
  | steps + 1 =>
    if x.isZero then some x
    else if 308 < exponent then none
    else if 0 ≤ exponent then
      (some (x.mulMagnitude (.ofNat (tenTo exponent.toNat)))).filter (·.isFinite)
    else if -308 ≤ exponent then some (x.divMagnitude (.ofNat (tenTo (-exponent).toNat)))
    else scale? (x.divMagnitude (.ofNat (tenTo 308))) (exponent + 308) steps

def binary? (n : Numeral) : Option Binary64 :=
  let magnitude :=
    let (significand, exponent) := n.scaled
    scale? (.ofNat significand) exponent 4
  magnitude.map fun x => if n.negative then x.neg else x

end Numeral

/-! ## Tokens -/

def isGap (c : Char) : Bool :=
  c == ' ' || c == '\t' || c == '\n' || c == '\r'

def exponentOf? (cs : List Char) : Option (Int × List Char) :=
  let (negative, rest) := takeSign cs
  let digits := rest.takeWhile isDigit
  if digits.isEmpty then none
  else
    let value : Int := digitsValue digits
    some (if negative then -value else value, rest.dropWhile isDigit)

def endNumeral? (negative : Bool) (whole : List Char) (cs : List Char) :
    Option (Numeral × List Char) := do
  let (part, rest) ← match cs with
    | '.' :: more =>
      let part := more.takeWhile isDigit
      if part.isEmpty then none else some (part, more.dropWhile isDigit)
    | _ => some ([], cs)
  match rest with
  | c :: more =>
    if c == 'e' || c == 'E' then
      let (exponent, rest) ← exponentOf? more
      some (⟨negative, whole, part, exponent, false⟩, rest)
    else some (⟨negative, whole, part, 0, part.isEmpty⟩, rest)
  | [] => some (⟨negative, whole, part, 0, part.isEmpty⟩, rest)

def numeral? (cs : List Char) : Option (Numeral × List Char) :=
  let (negative, rest) := match cs with
    | '-' :: more => (true, more)
    | _ => (false, cs)
  match rest with
  | '0' :: more => endNumeral? negative ['0'] more
  | _ =>
    let whole := rest.takeWhile isDigit
    if whole.isEmpty then none else endNumeral? negative whole (rest.dropWhile isDigit)

def unit? (a b c d : Char) : Option Nat :=
  natural? 16 [a, b, c, d]

def isHigh (unit : Nat) : Bool := 0xD800 ≤ unit && unit < 0xDC00

def isLow (unit : Nat) : Bool := 0xDC00 ≤ unit && unit < 0xE000

def joinUnits (high low : Nat) : Char :=
  Char.ofNat (0x10000 + (high - 0xD800) * 0x400 + (low - 0xDC00))

def escaped? : Char → Option Char
  | '"' => some '"'
  | '\\' => some '\\'
  | '/' => some '/'
  | 'b' => some '\x08'
  | 'f' => some '\x0c'
  | 'n' => some '\n'
  | 'r' => some '\r'
  | 't' => some '\t'
  | _ => none

def quoted? (done : List Char) (sound : Bool) : List Char → Option (Quoted × List Char)
  | '"' :: cs => some (if sound then some (String.ofList done.reverse) else none, cs)
  | '\\' :: 'u' :: a :: b :: c :: d :: cs =>
    match unit? a b c d with
    | none => none
    | some unit =>
      if isLow unit then quoted? done false cs
      else if isHigh unit then
        match cs with
        | '\\' :: 'u' :: e :: f :: g :: h :: more =>
          match unit? e f g h with
          | none => none
          | some next =>
            if isLow next then quoted? (joinUnits unit next :: done) sound more
            else quoted? done false more
        | more => quoted? done false more
      else quoted? (Char.ofNat unit :: done) sound cs
  | '\\' :: c :: cs =>
    match escaped? c with
    | some e => quoted? (e :: done) sound cs
    | none => none
  | c :: cs => if c < ' ' || c == '\\' then none else quoted? (c :: done) sound cs
  | [] => none

def token? : List Char → Option (Token × List Char)
  | '[' :: cs => some (.openArray, cs)
  | ']' :: cs => some (.closeArray, cs)
  | '{' :: cs => some (.openObject, cs)
  | '}' :: cs => some (.closeObject, cs)
  | ',' :: cs => some (.comma, cs)
  | ':' :: cs => some (.colon, cs)
  | '"' :: cs => (quoted? [] true cs).map fun (q, rest) => (.scalar (.text q), rest)
  | 'n' :: 'u' :: 'l' :: 'l' :: cs => some (.scalar .null, cs)
  | 't' :: 'r' :: 'u' :: 'e' :: cs => some (.scalar (.bool true), cs)
  | 'f' :: 'a' :: 'l' :: 's' :: 'e' :: cs => some (.scalar (.bool false), cs)
  | cs => (numeral? cs).map fun (n, rest) => (.scalar (.number n), rest)

def tokensFrom? (done : List Token) (cs : List Char) : Nat → Option (List Token)
  | 0 => none
  | fuel + 1 =>
    match cs.dropWhile isGap with
    | [] => some done.reverse
    | rest =>
      match token? rest with
      | some (token, rest) => tokensFrom? (token :: done) rest fuel
      | none => none

def tokens? (cs : List Char) : Option (List Token) :=
  tokensFrom? [] cs (cs.length + 1)

/-! ## Values -/

inductive Open
  | array (done : List Json)
  | object (done : List (Quoted × Json))
  | member (done : List (Quoted × Json)) (name : Quoted)

/-- What the containers part way through, the innermost first, wait for. -/
inductive Stage
  | atValue (stack : List Open)
  | atItem (stack : List Open)
  | atMember (stack : List Open)
  | atName (stack : List Open)
  | atColon (stack : List Open)
  | atNext (stack : List Open)
  | finished (value : Json)

def Stage.put (value : Json) : List Open → Option Stage
  | [] => some (.finished value)
  | .array done :: stack => some (.atNext (.array (value :: done) :: stack))
  | .member done name :: stack => some (.atNext (.object ((name, value) :: done) :: stack))
  | .object _ :: _ => none

def Stage.beginValue (stack : List Open) : Token → Option Stage
  | .scalar value => put (.scalar value) stack
  | .openArray => some (.atItem (.array [] :: stack))
  | .openObject => some (.atMember (.object [] :: stack))
  | _ => none

def Stage.beginMember (stack : List Open) : Token → Option Stage
  | .scalar (.text name) =>
    match stack with
    | .object done :: stack => some (.atColon (.member done name :: stack))
    | _ => none
  | _ => none

def Stage.close (stack : List Open) : Token → Option Stage
  | .closeArray =>
    match stack with
    | .array done :: stack => put (.array done.reverse) stack
    | _ => none
  | .closeObject =>
    match stack with
    | .object done :: stack => put (.object done.reverse) stack
    | _ => none
  | _ => none

def Stage.step : Stage → Token → Option Stage
  | .atValue stack, token => beginValue stack token
  | .atItem stack, token => (close stack token).or (beginValue stack token)
  | .atMember stack, token => (close stack token).or (beginMember stack token)
  | .atName stack, token => beginMember stack token
  | .atColon stack, token => if token = .colon then some (.atValue stack) else none
  | .atNext stack, token =>
    if token = .comma then
      match stack with
      | .array _ :: _ => some (.atValue stack)
      | .object _ :: _ => some (.atName stack)
      | _ => none
    else close stack token
  | .finished _, _ => none

def ofTokens? (tokens : List Token) : Option Json :=
  match tokens.foldlM Stage.step (.atValue []) with
  | some (.finished value) => some value
  | _ => none

def read? (s : String) : Option Json :=
  (tokens? s.toList).bind ofTokens?

def maxDepth : Nat := 127

def Scalar.isSound : Scalar → Bool
  | .number n => n.integer?.isSome || n.binary?.isSome
  | .text q => q.isSome
  | .null | .bool _ => true

/-- Whether all scalars are sound and containers are nested no deeper than allowed. -/
def areSound (depth : Nat) : List Token → Bool
  | [] => true
  | .scalar value :: tokens => value.isSound && areSound depth tokens
  | .openArray :: tokens | .openObject :: tokens =>
    depth < maxDepth && areSound (depth + 1) tokens
  | .closeArray :: tokens | .closeObject :: tokens => areSound (depth - 1) tokens
  | .comma :: tokens | .colon :: tokens => areSound depth tokens

def readSound? (s : String) : Option Json :=
  (tokens? s.toList).bind fun tokens =>
    if areSound 0 tokens then ofTokens? tokens else none

/-! ## What values stand for -/

def integer? : Json → Option Int
  | .scalar (.number n) => n.integer?
  | _ => none

def named? (members : List (Quoted × Json)) : Option (List (String × Json)) :=
  members.mapM fun m => m.1.map (·, m.2)

def natural? (bound : Nat) (v : Json) : Option Nat :=
  v.integer?.bind fun n => if 0 ≤ n && n < bound then some n.toNat else none

/-- No value is taken for one of another kind. A record is an object or an array of its fields in
order, and a choice is a name or an object with that one name and nothing under it. -/
instance : Readable Json where
  text?
    | .scalar (.text q) => q
    | _ => none
  flag?
    | .scalar (.bool b) => some b
    | _ => none
  count? v := v.natural? (twoTo 32)
  fraction?
    | .scalar (.number n) => n.binary?
    | _ => none
  isNothing
    | .scalar .null => true
    | _ => false
  items?
    | .array items => some items
    | _ => none
  entries?
    | .object members => named? members
    | _ => none
  fields? names
    | .object members => (named? members).bind (knownMembers? names)
    | .array items => positional? names items
    | _ => none
  choice? names v :=
    let chosen := match v with
      | .scalar (.text q) => q
      | .object [(name, .scalar .null)] => name
      | _ => none
    chosen.filter names.contains

/-! ## Writing -/

def shortEscape? : Char → Option Char
  | '"' => some '"'
  | '\\' => some '\\'
  | '\x08' => some 'b'
  | '\x0c' => some 'f'
  | '\n' => some 'n'
  | '\r' => some 'r'
  | '\t' => some 't'
  | _ => none

def writeChar (c : Char) : List Char :=
  match shortEscape? c with
  | some letter => ['\\', letter]
  | none =>
    if c < ' ' then
      let digits := (Text.hexadecimal c.toNat).toList
      ['\\', 'u'] ++ List.replicate (4 - digits.length) '0' ++ digits
    else [c]

def quote (s : String) : String :=
  String.ofList ('"' :: s.toList.flatMap writeChar ++ ['"'])

end Json

end BargeIn.Document
