import BargeIn.Document.Json
import BargeIn.Document.Toml.Value
import BargeIn.Document.Yaml.Node

/-!
# Loose values

The values that layers of settings are made of, whatever format they come from.
-/

set_option autoImplicit false

namespace BargeIn.Document

open Number

inductive Loose
  | nothing
  | flag (value : Bool)
  | whole (value : Int)
  | fraction (value : Binary64)
  | text (value : String)
  | list (items : List Loose)
  | table (members : List (String × Loose))
deriving Repr, Inhabited

namespace Loose

def put (members : List (String × Loose)) (name : String) (value : Loose) :
    List (String × Loose) :=
  if (members.lookup name).isSome then
    members.map fun m => if m.1 == name then (name, value) else m
  else members ++ [(name, value)]

mutual

/-- A sound JSON value. Whole numbers beyond 64 bits with a sign become fractions. -/
def ofJson : Json → Loose
  | .scalar .null => .nothing
  | .scalar (.bool b) => .flag b
  | .scalar (.number n) =>
    match n.integer?.filter inInt64 with
    | some i => .whole i
    | none => .fraction (n.binary?.getD .zero)
  | .scalar (.text q) => .text (q.getD "")
  | .array items => .list (ofJsonItems items)
  | .object members => .table (ofJsonMembers [] members)

def ofJsonItems : List Json → List Loose
  | [] => []
  | item :: items => ofJson item :: ofJsonItems items

def ofJsonMembers (done : List (String × Loose)) :
    List (Json.Quoted × Json) → List (String × Loose)
  | [] => done
  | (name, value) :: members =>
    ofJsonMembers (put done (name.getD "") (ofJson value)) members

end

mutual

def ofToml : Toml → Loose
  | .text s | .moment s => .text s
  | .whole n => .whole n
  | .fraction x => .fraction x
  | .flag b => .flag b
  | .array items => .list (ofTomlItems items)
  | .table members => .table (ofTomlMembers members)

def ofTomlItems : List Toml → List Loose
  | [] => []
  | item :: items => ofToml item :: ofTomlItems items

def ofTomlMembers : List (String × Toml) → List (String × Loose)
  | [] => []
  | (name, value) :: members => (name, ofToml value) :: ofTomlMembers members

end

def hasDigit (text : String) : Bool :=
  text.toList.any isDigit

def isFractionText (text : String) : Bool :=
  [".inf", ".Inf", ".INF", "+.inf", "+.Inf", "+.INF", "-.inf", "-.Inf", "-.INF", ".nan", "NaN",
    ".NAN"].contains text ||
    (hasDigit text && (Number.fraction? text.toList).isSome)

def ofFractionText? (text : String) : Option Loose :=
  (Number.fraction? text.toList).map .fraction

def markedWhole? : List Char → Option Int
  | '0' :: 'x' :: digits => int64? 16 digits
  | '0' :: 'o' :: digits => int64? 8 digits
  | '+' :: digits => int64? 10 digits
  | _ => none

def ofPlain? (text : String) : Option Loose :=
  match markedWhole? text.toList with
  | some n => some (.whole n)
  | none =>
    match text with
    | "" | "~" | "null" => some .nothing
    | "true" => some (.flag true)
    | "false" => some (.flag false)
    | _ =>
      match int64? 10 text.toList with
      | some n => some (.whole n)
      | none => if isFractionText text then ofFractionText? text else some (.text text)

def coreTag : String := "tag:yaml.org,2002:"

/-- What a plain scalar with a tag stands for; one that does not fit its tag is nothing. -/
def ofTagged? (tag text : String) : Option Loose :=
  if tag == coreTag ++ "bool" then
    some (if text == "true" then .flag true else if text == "false" then .flag false else .nothing)
  else if tag == coreTag ++ "int" then some (((int64? 10 text.toList).map .whole).getD .nothing)
  else if tag == coreTag ++ "float" then
    if isFractionText text then ofFractionText? text else some .nothing
  else if tag == coreTag ++ "null" then some .nothing
  else some (.text text)

def ofScalar? (text : String) (plain : Bool) (tag : Option String) : Option Loose :=
  if plain then
    match tag with
    | some tag => ofTagged? tag text
    | none => ofPlain? text
  else some (.text text)

/-- The name a scalar gives to a member, as it is written but for whole numbers. -/
def nameOf? (text : String) (plain : Bool) (tag : Option String) : Option String :=
  match ofScalar? text plain tag with
  | some .nothing => none
  | some (.whole n) => some (toString n)
  | some _ => some text
  | none => some text

mutual

def ofYaml? : Yaml → Option Loose
  | .scalar written plain tag => ofScalar? written plain tag
  | .sequence items _ => (ofYamlItems? items).map .list
  | .mapping members _ => (ofYamlMembers? [] members).map .table

def ofYamlItems? : List Yaml → Option (List Loose)
  | [] => some []
  | item :: items =>
    match ofYaml? item, ofYamlItems? items with
    | some item, some items => some (item :: items)
    | _, _ => none

def ofYamlMembers? (done : List (String × Loose)) :
    List (Yaml × Yaml) → Option (List (String × Loose))
  | [] => some done
  | (key, value) :: members =>
    match key with
    | .scalar written plain tag =>
      match nameOf? written plain tag, ofYaml? value with
      | some name, some value =>
        if (done.lookup name).isSome then none
        else ofYamlMembers? (done ++ [(name, value)]) members
      | _, _ => none
    | _ => none

end

end Loose

end BargeIn.Document
