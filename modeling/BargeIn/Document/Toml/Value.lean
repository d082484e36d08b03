import BargeIn.Document.Readable
import BargeIn.Document.Toml.Text

/-!
# TOML values

Numbers, dates, arrays and tables within a line, and the tables they are collected in. A key may
be given only once, and a table that was completed is not to be extended.
-/

set_option autoImplicit false

namespace BargeIn.Document

open Number

inductive Toml
  | text (value : String)
  | whole (value : Int)
  | fraction (value : Binary64)
  | flag (value : Bool)
  | moment (value : String)
  | array (items : List Toml)
  | table (members : List (String × Toml))
deriving Repr, Inhabited

namespace Toml

/-! ## Numbers and dates -/

def isGrouped (base : Nat) (cs : List Char) : Bool :=
  let groups := (String.ofList cs).splitOn "_"
  groups.all fun group => (natural? base group.toList).isSome

def ungrouped (cs : List Char) : List Char :=
  cs.filter (· != '_')

def isDecimal (digits : List Char) : Bool :=
  isGrouped 10 digits && (digits.length = 1 || digits.head? != some '0')

def wholeInBase? (base : Nat) (digits : List Char) : Option Int :=
  if isGrouped base digits then int64? base (ungrouped digits) else none

def whole? (cs : List Char) : Option Int :=
  match cs with
  | '0' :: 'x' :: digits => wholeInBase? 16 digits
  | '0' :: 'o' :: digits => wholeInBase? 8 digits
  | '0' :: 'b' :: digits => wholeInBase? 2 digits
  | _ => if isDecimal (takeSign cs).2 then int64? 10 (ungrouped cs) else none

def isExponent (cs : List Char) : Bool :=
  isGrouped 10 (takeSign cs).2

def isFraction (cs : List Char) : Bool :=
  let mark := cs.dropWhile fun c => c != 'e' && c != 'E'
  let body := cs.take (cs.length - mark.length)
  let point := body.dropWhile (· != '.')
  isDecimal (body.take (body.length - point.length)) &&
    (mark.isEmpty || isExponent (mark.drop 1)) &&
    (if point.isEmpty then !mark.isEmpty else isGrouped 10 (point.drop 1))

def fraction? (cs : List Char) : Option Binary64 :=
  let (negative, unsigned) := takeSign cs
  let signed (x : Binary64) := if negative then x.neg else x
  match String.ofList unsigned with
  | "inf" => some (signed .infinity)
  | "nan" => some (signed .nan)
  | _ =>
    if isFraction unsigned then
      ((Number.fraction? (ungrouped unsigned)).map signed).filter (· != .infinity)
    else none

def field? (width low high : Nat) (cs : List Char) : Option (Nat × List Char) :=
  let digits := cs.take width
  if digits.length = width && digits.all isDigit then
    let value := digitsValue digits
    if low ≤ value && value ≤ high then some (value, cs.drop width) else none
  else none

def mark? (c : Char) : List Char → Option (List Char)
  | d :: cs => if c == d then some cs else none
  | [] => none

def daysIn (year month : Nat) : Nat :=
  if month = 2 then
    if year % 4 = 0 && (year % 100 != 0 || year % 400 = 0) then 29 else 28
  else if [4, 6, 9, 11].contains month then 30
  else 31

def skipDate? (cs : List Char) : Option (List Char) := do
  let (year, cs) ← field? 4 0 9999 cs
  let (month, cs) ← field? 2 1 12 (← mark? '-' cs)
  let (_, cs) ← field? 2 1 (daysIn year month) (← mark? '-' cs)
  return cs

def skipTime? (cs : List Char) : Option (List Char) := do
  let (_, cs) ← field? 2 0 23 cs
  let (_, cs) ← field? 2 0 59 (← mark? ':' cs)
  let (_, cs) ← field? 2 0 60 (← mark? ':' cs)
  match cs with
  | '.' :: more => if more.head?.any isDigit then some (more.dropWhile isDigit) else none
  | _ => some cs

def skipOffset? : List Char → Option (List Char)
  | 'Z' :: cs | 'z' :: cs => some cs
  | '+' :: cs | '-' :: cs => do
    let (_, cs) ← field? 2 0 24 cs
    let (_, cs) ← field? 2 0 59 (← mark? ':' cs)
    return cs
  | cs => some cs

def isMoment (cs : List Char) : Bool :=
  match skipDate? cs with
  | some [] => true
  | some (c :: cs) =>
    (c == 'T' || c == 't' || c == ' ') && ((skipTime? cs).bind skipOffset?) == some []
  | none => skipTime? cs == some []

def isWordChar (c : Char) : Bool :=
  c.isAlphanum || "+-_.:".toList.contains c

/-- A word, or two if the first one is a date and the other begins with a digit. -/
def wordOf (cs : List Char) : List Char :=
  let first := cs.takeWhile isWordChar
  match cs.drop first.length with
  | ' ' :: d :: rest =>
    if skipDate? first = some [] && isDigit d then
      first ++ ' ' :: (d :: rest).takeWhile isWordChar
    else first
  | _ => first

def word? (cs : List Char) : Option (Toml × List Char) :=
  let word := wordOf cs
  let rest := cs.drop word.length
  match String.ofList word with
  | "true" => some (.flag true, rest)
  | "false" => some (.flag false, rest)
  | written =>
    match whole? word, fraction? word with
    | some n, _ => some (.whole n, rest)
    | none, some x => some (.fraction x, rest)
    | none, none => if isMoment word then some (.moment written, rest) else none

/-! ## Tables in the making -/

/-- How a table came to be: from its own header, from the header of a table within it, or from
the points in a key. -/
inductive Origin
  | header
  | implied
  | dotted
deriving DecidableEq

inductive Entry
  | value (value : Toml)
  | table (origin : Origin) (members : List (String × Entry))
  | tables (done : List (List (String × Entry)))
deriving Inhabited

abbrev Members := List (String × Entry)

def put (members : Members) (name : String) (entry : Entry) : Members :=
  if (members.lookup name).isSome then
    members.map fun m => if m.1 == name then (name, entry) else m
  else members ++ [(name, entry)]

/-- Gives a value to a key with points, within a table. The tables on the way are made; they may
not have a header of their own. -/
def assign? (value : Toml) (inside : Bool) : List String → Members → Option Members
  | [], _ => none
  | [name], members =>
    if inside && (members.lookup name).isNone then some (members ++ [(name, .value value)])
    else none
  | name :: next :: path, members =>
    let last := path.isEmpty
    match members.lookup name with
    | none => (assign? value true (next :: path) []).map fun m =>
        put members name (.table .dotted m)
    | some (.table .dotted m) => (assign? value true (next :: path) m).map fun m =>
        put members name (.table .dotted m)
    | some (.table .implied m) => (assign? value (!last) (next :: path) m).map fun m =>
        put members name (.table .implied m)
    | some (.tables (m :: done)) => (assign? value (!last) (next :: path) m).map fun m =>
        put members name (.tables (m :: done))
    | _ => none

/-- Changes the table at a path of headers, making those that are missing. Of an array of tables
the last one is meant. -/
def modify? (change : Members → Option Members) : List String → Members → Option Members
  | [], members => change members
  | name :: path, members =>
    match members.lookup name with
    | none => (modify? change path []).map fun m => put members name (.table .implied m)
    | some (.table origin m) => (modify? change path m).map fun m =>
        put members name (.table origin m)
    | some (.tables (m :: done)) => (modify? change path m).map fun m =>
        put members name (.tables (m :: done))
    | _ => none

def openTable? (path : List String) (root : Members) : Option Members :=
  path.getLast?.bind fun name =>
    modify? (fun members =>
      match members.lookup name with
      | none => some (put members name (.table .header []))
      | some (.table .implied m) => some (put members name (.table .header m))
      | _ => none) path.dropLast root

def openNext? (path : List String) (root : Members) : Option Members :=
  path.getLast?.bind fun name =>
    modify? (fun members =>
      match members.lookup name with
      | none => some (put members name (.tables [[]]))
      | some (.tables done) => some (put members name (.tables ([] :: done)))
      | _ => none) path.dropLast root

mutual

def Entry.finish : Entry → Toml
  | .value v => v
  | .table _ members => .table (finishMembers members)
  | .tables done => .array (finishTables done).reverse

def finishMembers : Members → List (String × Toml)
  | [] => []
  | (name, entry) :: members => (name, entry.finish) :: finishMembers members

def finishTables : List Members → List Toml
  | [] => []
  | members :: done => .table (finishMembers members) :: finishTables done

end

/-! ## Documents -/

def skipComment? : List Char → Option (List Char)
  | '#' :: cs =>
    match cs.dropWhile isPrinted with
    | [] => some []
    | '\n' :: rest => some ('\n' :: rest)
    | '\r' :: '\n' :: rest => some ('\n' :: rest)
    | _ => none
  | cs => some cs

def skipLines? : Nat → List Char → Option (List Char)
  | 0, cs => some cs
  | fuel + 1, cs =>
    match cs with
    | '\n' :: rest | '\r' :: '\n' :: rest => skipLines? fuel rest
    | '#' :: _ => (skipComment? cs).bind (skipLines? fuel)
    | c :: rest => if isBlank c then skipLines? fuel rest else some cs
    | [] => some []

mutual

def value? (depth : Nat) : Nat → List Char → Option (Toml × List Char)
  | 0, _ => none
  | fuel + 1, cs =>
    match cs with
    | '"' :: _ | '\'' :: _ => (text? cs).map fun (quoted, rest) => (.text quoted, rest)
    | '[' :: rest =>
      if depth < maxDepth then
        (items? (depth + 1) [] fuel rest).map fun (items, rest) => (.array items, rest)
      else none
    | '{' :: rest =>
      if depth < maxDepth then
        match rest.dropWhile isBlank with
        | '}' :: rest => some (.table [], rest)
        | rest => (members? (depth + 1) [] fuel rest).map fun (m, rest) =>
            (.table (finishMembers m), rest)
      else none
    | _ => word? cs

def items? (depth : Nat) (done : List Toml) : Nat → List Char → Option (List Toml × List Char)
  | 0, _ => none
  | fuel + 1, cs => do
    match ← skipLines? cs.length cs with
    | ']' :: rest => return (done.reverse, rest)
    | cs =>
      let (item, rest) ← value? depth fuel cs
      match ← skipLines? rest.length rest with
      | ',' :: rest => items? depth (item :: done) fuel rest
      | ']' :: rest => return ((item :: done).reverse, rest)
      | _ => none

def members? (depth : Nat) (done : Members) : Nat → List Char → Option (Members × List Char)
  | 0, _ => none
  | fuel + 1, cs => do
    let (path, rest) ← key? cs
    let (value, rest) ← value? depth fuel ((← mark? '=' rest).dropWhile isBlank)
    let done ← assign? value true path done
    match rest.dropWhile isBlank with
    | ',' :: rest => members? depth done fuel rest
    | '}' :: rest => return (done, rest)
    | _ => none

end

def endLine? (cs : List Char) : Option (List Char) := do
  match ← skipComment? (cs.dropWhile isBlank) with
  | [] => return []
  | '\n' :: rest | '\r' :: '\n' :: rest => return rest
  | _ => none

def header? (cs : List Char) : Option (List String × List Char) := do
  let (path, rest) ← key? cs
  return (path, ← mark? ']' rest)

def lines? (root : Members) (path : List String) : Nat → List Char → Option Members
  | 0, _ => none
  | fuel + 1, cs => do
    match ← skipLines? cs.length cs with
    | [] => return root
    | '[' :: '[' :: cs =>
      let (path, rest) ← header? cs
      lines? (← openNext? path root) path fuel (← endLine? (← mark? ']' rest))
    | '[' :: cs =>
      let (path, rest) ← header? cs
      lines? (← openTable? path root) path fuel (← endLine? rest)
    | cs =>
      let (key, rest) ← key? cs
      let (value, rest) ← value? 0 cs.length ((← mark? '=' rest).dropWhile isBlank)
      lines? (← modify? (assign? value true key) path root) path fuel (← endLine? rest)

def read? (s : String) : Option Toml :=
  let cs := s.toList
  let cs := if cs.head? = some '\ufeff' then cs.drop 1 else cs
  (lines? [] [] (cs.length + 1) cs).map fun members => .table (finishMembers members)

end Toml

instance : Readable Toml where
  text?
    | .text s => some s
    | _ => none
  flag?
    | .flag b => some b
    | _ => none
  count?
    | .whole n => if 0 ≤ n && n < twoTo 32 then some n.toNat else none
    | _ => none
  fraction?
    | .fraction x => some x
    | .whole n => some (.ofInt n)
    | _ => none
  isNothing _ := false
  items?
    | .array items => some items
    | _ => none
  entries?
    | .table members => some members
    | _ => none
  fields? names
    | .table members => knownMembers? names members
    | .array items => positional? names items
    | _ => none
  choice? names
    | .text s => (some s).filter names.contains
    | .table [(name, _)] => (some name).filter names.contains
    | _ => none

end BargeIn.Document
