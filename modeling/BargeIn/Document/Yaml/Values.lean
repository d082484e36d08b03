import BargeIn.Document.Readable
import BargeIn.Document.Yaml.Node

/-!
# YAML values

What YAML nodes are read as. Any scalar is a text; other kinds are seen from a plain scalar
alone, by the core rules. Where a collection or a record is wanted, nothing at all stands for an
empty one.
-/

set_option autoImplicit false

namespace BargeIn.Document.Yaml

open Number

def isNullText (text : String) : Bool :=
  ["null", "Null", "NULL", "~"].contains text

def plainText? : Yaml → Option String
  | .scalar text true _ => some text
  | _ => none

def isEmpty (v : Yaml) : Bool :=
  v.plainText? = some ""

def flagOfText? (text : String) : Option Bool :=
  if ["true", "True", "TRUE"].contains text then some true
  else if ["false", "False", "FALSE"].contains text then some false
  else none

/-- Digits with a zero in front are no number. -/
def hasLeadingZero (cs : List Char) : Bool :=
  let digits := (takeSign cs).2
  1 < digits.length && digits.head? = some '0' && digits.all isDigit

def wholeOfText? (cs : List Char) : Option Nat :=
  let unsigned := match cs with
    | '+' :: rest => rest
    | _ => cs
  match unsigned with
  | '0' :: 'x' :: rest => natural? 16 rest
  | '0' :: 'o' :: rest => natural? 8 rest
  | '0' :: 'b' :: rest => natural? 2 rest
  | _ => if hasLeadingZero cs then none else natural? 10 unsigned

def fractionOfText? (text : String) : Option Binary64 :=
  let unsigned := match text.toList with
    | '+' :: rest => rest
    | cs => cs
  if [".inf", ".Inf", ".INF"].contains (String.ofList unsigned) then some .infinity
  else if ["-.inf", "-.Inf", "-.INF"].contains text then some (.neg .infinity)
  else if [".nan", ".NaN", ".NAN"].contains text then some .nan
  else if text.toList.head? = some '+' && (unsigned.head?.any fun c => c == '+' || c == '-') then
    none
  else (Number.fraction? unsigned).filter (·.isFinite)

def tagName? (tag : Option String) : Option String :=
  match (tag.getD "").toList with
  | '!' :: c :: cs => some (String.ofList (c :: cs))
  | _ => none

def named? : Yaml × Yaml → Option (String × Yaml)
  | (.scalar text _ _, value) => some (text, value)
  | _ => none

instance : Readable Yaml where
  text?
    | .scalar text _ _ => some text
    | _ => none
  flag? v := v.plainText?.bind flagOfText?
  count? v := (v.plainText?.bind fun text => wholeOfText? text.toList).filter (· < twoTo 32)
  fraction? v := v.plainText?.bind fractionOfText?
  isNothing v := v.plainText?.any fun text => text.isEmpty || isNullText text
  items?
    | .sequence items _ => some items
    | v => if v.isEmpty then some [] else none
  entries?
    | .mapping members _ => members.mapM named?
    | v => if v.isEmpty then some [] else none
  fields? names
    | .mapping members _ => (members.mapM named?).bind (knownMembers? names)
    | .sequence items _ => positional? names items
    | v => if v.isEmpty then some [] else none
  choice? names
    | .scalar text _ tag =>
      let chosen := match tagName? tag with
        | some name => if text.isEmpty || isNullText text then some name else none
        | none => some text
      chosen.filter names.contains
    | _ => none

def isAllowed (c : Char) : Bool :=
  c == '\t' || c == '\n' || c == '\r' || (' ' ≤ c && c ≤ '~') || c == '\u0085' ||
    ('\u00a0' ≤ c && c ≤ '\ufffd') || 0x10000 ≤ c.toNat

/-- Reads a document that holds one value at most. No value at all is an empty one. The next-line
character breaks a line. -/
def readValue? (s : String) : Option Yaml :=
  let cs := s.toList
  if cs.all isAllowed then
    let cs := (unifyBreaks cs).map fun c => if c == '\u0085' then '\n' else c
    (read? (String.ofList cs)).map (·.getD empty)
  else none

end BargeIn.Document.Yaml
