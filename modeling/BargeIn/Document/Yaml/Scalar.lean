import BargeIn.Number.Decimal

/-!
# YAML scalars

The texts of a YAML document: in quotes, plain, or as a block of lines. Each function reads a
scalar at the beginning of the characters given and returns its text with the number of
characters it takes up. Blank space inside a text that spans lines is folded: one line break
becomes a space, and of several all but the first stay.
-/

set_option autoImplicit false

namespace BargeIn.Document.Yaml

open Number

def isBlank (c : Char) : Bool := c == ' ' || c == '\t'

def wordEnds : List Char → Bool
  | [] => true
  | c :: _ => isBlank c || c == '\n'

/-- A line that separates documents, given the text from its beginning. -/
def separates : List Char → Bool
  | '-' :: '-' :: '-' :: cs | '.' :: '.' :: '.' :: cs => wordEnds cs
  | _ => false

inductive Gap
  | none
  | blanks (reversed : List Char)
  | lines (counted : Bool) (more : Nat)

namespace Gap

def addBlank (c : Char) : Gap → Gap
  | .none => .blanks [c]
  | .blanks cs => .blanks (c :: cs)
  | gap => gap

def addBreak : Gap → Gap
  | .none | .blanks _ => .lines true 0
  | .lines counted more => .lines counted (more + 1)

def isLines : Gap → Bool
  | .lines .. => true
  | _ => false

def onto (done : List Char) : Gap → List Char
  | .none => done
  | .blanks cs => cs ++ done
  | .lines counted more =>
    if counted && more = 0 then ' ' :: done else List.replicate more '\n' ++ done

end Gap

/-! ## Quoted texts -/

def escaped? : Char → Option Char
  | '0' => some '\x00'
  | 'a' => some '\x07'
  | 'b' => some '\x08'
  | 't' | '\t' => some '\t'
  | 'n' => some '\n'
  | 'v' => some '\x0b'
  | 'f' => some '\x0c'
  | 'r' => some '\r'
  | 'e' => some '\x1b'
  | ' ' => some ' '
  | '"' => some '"'
  | '/' => some '/'
  | '\\' => some '\\'
  | 'N' => some '\u0085'
  | '_' => some '\u00a0'
  | 'L' => some '\u2028'
  | 'P' => some '\u2029'
  | _ => none

def escapeWidth? : Char → Option Nat
  | 'x' => some 2
  | 'u' => some 4
  | 'U' => some 8
  | _ => none

def scalarValue? (n : Nat) : Option Char :=
  if n.isValidChar then some (Char.ofNat n) else none

def doubleQuoted? (done : List Char) (gap : Gap) (taken skip : Nat) :
    List Char → Option (String × Nat)
  | [] => none
  | c :: cs =>
    if 0 < skip then doubleQuoted? done gap (taken + 1) (skip - 1) cs
    else match c with
      | '"' => some (String.ofList (gap.onto done).reverse, taken + 1)
      | '\n' =>
        if separates cs then none else doubleQuoted? done gap.addBreak (taken + 1) 0 cs
      | '\\' =>
        let done := gap.onto done
        match cs with
        | '\n' :: rest =>
          if separates rest then none
          else doubleQuoted? done (.lines false 0) (taken + 1) 1 cs
        | e :: rest =>
          match escaped? e, escapeWidth? e with
          | some c, _ => doubleQuoted? (c :: done) .none (taken + 1) 1 cs
          | none, some width =>
            let digits := rest.take width
            let value := if digits.length = width then natural? 16 digits else none
            match value.bind scalarValue? with
            | some c => doubleQuoted? (c :: done) .none (taken + 1) (width + 1) cs
            | none => none
          | none, none => none
        | [] => none
      | _ =>
        if isBlank c then doubleQuoted? done (gap.addBlank c) (taken + 1) 0 cs
        else doubleQuoted? (c :: gap.onto done) .none (taken + 1) 0 cs

def singleQuoted? (done : List Char) (gap : Gap) (taken : Nat) : List Char → Option (String × Nat)
  | [] => none
  | '\'' :: '\'' :: cs => singleQuoted? ('\'' :: gap.onto done) .none (taken + 2) cs
  | '\'' :: _ => some (String.ofList (gap.onto done).reverse, taken + 1)
  | '\n' :: cs => if separates cs then none else singleQuoted? done gap.addBreak (taken + 1) cs
  | c :: cs =>
    if isBlank c then singleQuoted? done (gap.addBlank c) (taken + 1) cs
    else singleQuoted? (c :: gap.onto done) .none (taken + 1) cs

/-! ## Plain texts -/

def isFlowIndicator (c : Char) : Bool :=
  c == ',' || c == '[' || c == ']' || c == '{' || c == '}'

def endsPlain (flow : Bool) (c : Char) (after : List Char) : Bool :=
  (c == ':' && wordEnds after) || (flow && isFlowIndicator c)

/-- A colon that stands directly before an indicator of a flow collection. -/
def misplacedColon (flow : Bool) (c : Char) : List Char → Bool
  | next :: _ => flow && c == ':' && (isFlowIndicator next || next == '?')
  | [] => false

/-- A plain text, with the number of characters up to the next token and whether line breaks
follow the text. Lines outside of flow collections are indented to at least `indent`. -/
def plain? (flow : Bool) (indent : Nat) (done : List Char) (gap : Gap) (column taken : Nat) :
    List Char → Option (String × Nat × Bool)
  | [] => some (String.ofList done.reverse, taken, gap.isLines)
  | c :: cs =>
    let ended := some (String.ofList done.reverse, taken, gap.isLines)
    if c == '\n' then plain? flow indent done gap.addBreak 0 (taken + 1) cs
    else if isBlank c then
      if gap.isLines && column < indent && c == '\t' then none
      else plain? flow indent done (gap.addBlank c) (column + 1) (taken + 1) cs
    else
      let first := match gap with
        | .none => false
        | _ => true
      if gap.isLines && !flow && column < indent then ended
      else if first && (c == '#' || (column = 0 && separates (c :: cs))) then ended
      else if misplacedColon flow c cs then none
      else if endsPlain flow c cs then ended
      else plain? flow indent (c :: gap.onto done) .none (column + 1) (taken + 1) cs

/-! ## Blocks of lines -/

inductive Chomping
  | strip
  | clip
  | keep
deriving DecidableEq

def chompingOf : List Char → Option Chomping × List Char
  | '+' :: cs => (some .keep, cs)
  | '-' :: cs => (some .strip, cs)
  | cs => (none, cs)

def blockHeader? (cs : List Char) : Option (Chomping × Option Nat × List Char) :=
  let (chomping, cs) := chompingOf cs
  let (indent, cs) := match cs with
    | c :: rest => if isDigit c then (some (digitValue c), rest) else (none, cs)
    | [] => (none, cs)
  let (chomping, cs) := match chomping, indent with
    | none, some _ => chompingOf cs
    | _, _ => (chomping, cs)
  if indent = some 0 then none else some (chomping.getD .clip, indent, cs)

structure Margin where
  breaks : Nat
  taken : Nat
  column : Nat
  widest : Nat
  rest : List Char

/-- Passes over indentation and empty lines. Without a given indentation all spaces count to
it. A tab may not stand in for it. -/
def margin? (indent : Option Nat) (breaks taken column widest : Nat) :
    List Char → Option Margin
  | c :: cs =>
    let inside := indent.all (column < ·)
    if c == '\n' then margin? indent (breaks + 1) (taken + 1) 0 widest cs
    else if inside && c == ' ' then
      margin? indent breaks (taken + 1) (column + 1) (max widest (column + 1)) cs
    else if inside && c == '\t' then none
    else some ⟨breaks, taken, column, widest, c :: cs⟩
  | [] => some ⟨breaks, taken, column, widest, []⟩

structure Block where
  done : List Char := []
  ended : Bool := false
  breaks : Nat
  indented : Bool := false

/-- Takes a line onto a block. A folded block joins two lines neither of which is indented. -/
def Block.addLine (literal : Bool) (line : List Char) (b : Block) : List Char :=
  let indented := line.head?.any isBlank
  let joined := !literal && b.ended && !b.indented && !indented
  let between :=
    if joined then (if b.breaks = 0 then [' '] else List.replicate b.breaks '\n')
    else List.replicate (b.breaks + if b.ended then 1 else 0) '\n'
  line.reverse ++ (between ++ b.done)

def Block.finish (chomping : Chomping) (b : Block) : String :=
  let tail := match chomping with
    | .strip => 0
    | .clip => if b.ended then 1 else 0
    | .keep => b.breaks + if b.ended then 1 else 0
  String.ofList ((List.replicate tail '\n' ++ b.done).reverse)

def blockLines? (literal : Bool) (indent : Nat) (b : Block) (m : Margin) (taken : Nat) :
    Nat → Option (Block × Nat)
  | 0 => none
  | fuel + 1 =>
    if m.column = indent && !m.rest.isEmpty then
      let line := m.rest.takeWhile (· != '\n')
      let done := b.addLine literal line
      let taken := taken + line.length
      let indented := line.head?.any isBlank
      match m.rest.dropWhile (· != '\n') with
      | _ :: after => do
        let next ← margin? (some indent) 0 0 0 0 after
        blockLines? literal indent ⟨done, true, next.breaks, indented⟩ next
          (taken + 1 + next.taken) fuel
      | [] => some (⟨done, false, 0, indented⟩, taken)
    else some (b, taken)

def block? (literal : Bool) (outer : Int) (cs : List Char) : Option (String × Nat) := do
  let (chomping, explicit, rest) ← blockHeader? cs
  let spaces := rest.takeWhile isBlank
  let afterSpaces := rest.dropWhile isBlank
  let comment := if afterSpaces.head? = some '#' then afterSpaces.takeWhile (· != '\n') else []
  let header := cs.length - rest.length + spaces.length + comment.length
  match afterSpaces.drop comment.length with
  | [] => some ("", header)
  | c :: body =>
    if c != '\n' then none
    else
      let indent := explicit.map fun n => outer.toNat + n
      let m ← margin? indent 0 0 0 0 body
      let indent := indent.getD (max (max m.widest (outer + 1).toNat) 1)
      let (b, taken) ← blockLines? literal indent { breaks := m.breaks } m
        (header + 1 + m.taken) (body.length + 1)
      return (b.finish chomping, taken)

end BargeIn.Document.Yaml
