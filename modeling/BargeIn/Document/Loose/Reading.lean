import BargeIn.Document.Loose.Value
import BargeIn.Number.Shortest
import BargeIn.Text.Case

/-!
# Lenient reading

Loose values are read leniently: a number is taken for a text, and a text for a number or a truth
value, wherever that makes sense.
-/

set_option autoImplicit false

namespace BargeIn.Document.Loose

open Number

def flagOfText? (text : String) : Option Bool :=
  let word := Text.lower text
  if ["1", "true", "on", "yes"].contains word then some true
  else if ["0", "false", "off", "no"].contains word then some false
  else none

def flagOfWord? (text : String) : Option Bool :=
  let word := Text.lower text
  if ["true", "on", "yes"].contains word then some true
  else if ["false", "off", "no"].contains word then some false
  else none

def flag? : Loose → Option Bool
  | .flag b => some b
  | .whole n => some (n != 0)
  | .fraction x => some (!x.isZero)
  | .text s => flagOfText? s
  | _ => none

/-- The nearest whole number of at least zero; a half goes up. -/
def wholeOfFraction (x : Binary64) : Nat :=
  if x.isNaN || x.isNegative then 0
  else if x.isInfinite then twoTo 64 - 1
  else min x.roundUpMagnitude (twoTo 64 - 1)

def whole? : Loose → Option Nat
  | .whole n => if 0 ≤ n then some n.toNat else none
  | .flag b => some b.toNat
  | .fraction x => some (wholeOfFraction x)
  | .text s =>
    match flagOfWord? s with
    | some b => some b.toNat
    | none => word64? 10 s.toList
  | _ => none

def oneOrZero (b : Bool) : Binary64 := if b then .one else .zero

def fraction? : Loose → Option Binary64
  | .fraction x => some x
  | .whole n => some (.ofInt n)
  | .flag b => some (oneOrZero b)
  | .text s =>
    match flagOfWord? s with
    | some b => some (oneOrZero b)
    | none => Number.fraction? s.toList
  | _ => none

def flagText (b : Bool) : String := if b then "true" else "false"

def text? : Loose → Option String
  | .text s => some s
  | .flag b => some (flagText b)
  | .whole n => some (toString n)
  | .fraction x => some x.text
  | _ => none

/-- A choice is written in any case, as a text or as the only name in a table. -/
def choice? (names : List String) (v : Loose) : Option String :=
  let written := match v with
    | .text s => some s
    | .table [(name, _)] => some name
    | _ => none
  written.bind fun word => names.find? fun name => Text.lower name == Text.lower word

instance : Readable Loose where
  text? := text?
  flag? := flag?
  count? v := v.whole?.filter (· < twoTo 32)
  fraction? := fraction?
  isNothing
    | .nothing => true
    | _ => false
  items?
    | .list items => some items
    | _ => none
  entries?
    | .table members => some members
    | _ => none
  fields? names
    | .table members => some (members.filter fun m => names.contains m.1)
    | .list items => some (names.zip items)
    | _ => none
  choice? := choice?

end BargeIn.Document.Loose
