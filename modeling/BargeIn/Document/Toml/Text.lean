import BargeIn.Number.Decimal

/-!
# TOML texts

Quoted texts, on one line or on several, and the keys made of them. Each function returns what
follows the part it reads.
-/

set_option autoImplicit false

namespace BargeIn.Document.Toml

open Number

def isBlank (c : Char) : Bool := c == ' ' || c == '\t'

def isPrinted (c : Char) : Bool :=
  c == '\t' || (' ' ≤ c && c != '\x7f')

def escaped? : Char → Option Char
  | 'b' => some '\x08'
  | 't' => some '\t'
  | 'n' => some '\n'
  | 'f' => some '\x0c'
  | 'r' => some '\r'
  | '"' => some '"'
  | '\\' => some '\\'
  | _ => none

def codePoint? (digits : List Char) : Option Char :=
  (natural? 16 digits).bind fun n => if n.isValidChar then some (Char.ofNat n) else none

def escape? : List Char → Option (Char × Nat)
  | 'u' :: cs =>
    if 4 ≤ cs.length then (codePoint? (cs.take 4)).map (·, 5) else none
  | 'U' :: cs =>
    if 8 ≤ cs.length then (codePoint? (cs.take 8)).map (·, 9) else none
  | c :: _ => (escaped? c).map (·, 1)
  | [] => none

def basicLine? (done : List Char) (skip : Nat) : List Char → Option (String × List Char)
  | [] => none
  | c :: cs =>
    if 0 < skip then basicLine? done (skip - 1) cs
    else if c == '"' then some (String.ofList done.reverse, cs)
    else if c == '\\' then
      match escape? cs with
      | some (e, taken) => basicLine? (e :: done) taken cs
      | none => none
    else if isPrinted c then basicLine? (c :: done) 0 cs
    else none

def literalLine? (done : List Char) : List Char → Option (String × List Char)
  | [] => none
  | c :: cs =>
    if c == '\'' then some (String.ofList done.reverse, cs)
    else if isPrinted c then literalLine? (c :: done) cs
    else none

/-- The quotes at the end of a text on several lines, of which up to two belong to it. -/
def closing? (quote : Char) (done cs : List Char) : Option (String × List Char) :=
  let quotes := (cs.takeWhile (· == quote)).length
  if quotes < 3 then none
  else
    let own := min (quotes - 3) 2
    some (String.ofList (List.replicate own quote ++ done).reverse, cs.drop (own + 3))

def spaceLength : List Char → Nat
  | '\n' :: cs => spaceLength cs + 1
  | '\r' :: '\n' :: cs => spaceLength cs + 2
  | c :: cs => if isBlank c then spaceLength cs + 1 else 0
  | [] => 0

def lineEnd? (cs : List Char) : Option Nat :=
  match cs.dropWhile isBlank with
  | '\n' :: _ | '\r' :: '\n' :: _ => some (spaceLength cs)
  | _ => none

def basicLines? (done : List Char) (skip : Nat) : List Char → Option (String × List Char)
  | [] => none
  | c :: cs =>
    if 0 < skip then basicLines? done (skip - 1) cs
    else match closing? '"' done (c :: cs) with
      | some text => some text
      | none =>
        if c == '\\' then
          match escape? cs, lineEnd? cs with
          | some (e, taken), _ => basicLines? (e :: done) taken cs
          | none, some taken => basicLines? done taken cs
          | none, none => none
        else if c == '\r' then
          if cs.head? = some '\n' then basicLines? done 0 cs else none
        else if c == '\n' || isPrinted c then basicLines? (c :: done) 0 cs
        else none

def literalLines? (done : List Char) : List Char → Option (String × List Char)
  | [] => none
  | c :: cs =>
    match closing? '\'' done (c :: cs) with
    | some text => some text
    | none =>
      if c == '\r' then if cs.head? = some '\n' then literalLines? done cs else none
      else if c == '\n' || isPrinted c then literalLines? (c :: done) cs
      else none

/-- A line break directly behind the first quotes does not belong to the text. -/
def dropBreak : List Char → List Char
  | '\n' :: cs | '\r' :: '\n' :: cs => cs
  | cs => cs

def text? : List Char → Option (String × List Char)
  | '"' :: '"' :: '"' :: cs => basicLines? [] 0 (dropBreak cs)
  | '\'' :: '\'' :: '\'' :: cs => literalLines? [] (dropBreak cs)
  | '"' :: cs => basicLine? [] 0 cs
  | '\'' :: cs => literalLine? [] cs
  | _ => none

def isBareChar (c : Char) : Bool :=
  c.isAlphanum || c == '_' || c == '-'

def simpleKey? : List Char → Option (String × List Char)
  | '"' :: cs => basicLine? [] 0 cs
  | '\'' :: cs => literalLine? [] cs
  | cs =>
    let bare := cs.takeWhile isBareChar
    if bare.isEmpty then none else some (String.ofList bare, cs.drop bare.length)

def parts? : Nat → List Char → Option (List String × List Char)
  | 0, _ => none
  | bound + 1, cs => do
    let (part, rest) ← simpleKey? (cs.dropWhile isBlank)
    match rest.dropWhile isBlank with
    | '.' :: more =>
      let (parts, rest) ← parts? bound more
      return (part :: parts, rest)
    | rest => return ([part], rest)

/-- How deep values may be nested and how many parts a key may have. -/
def maxDepth : Nat := 79

def key? (cs : List Char) : Option (List String × List Char) :=
  parts? maxDepth cs

end BargeIn.Document.Toml
