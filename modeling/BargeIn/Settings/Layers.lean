import BargeIn.Document.Loose.Value
import BargeIn.Document.Yaml.Node
import BargeIn.Files.Tree
import BargeIn.Text.Case

/-!
# Layers of settings

Settings are laid over each other, the later ones on top: the files `config/default` and
`config/` with the name of the environment, and variables whose names begin with a mark. Tables
are merged by the small form of their names, and everything else replaces what was there.
-/

set_option autoImplicit false

namespace BargeIn.Settings

open Document

/-! ## Merging -/

mutual

/-- Lays a value under a name over what a value holds; it becomes a table if it is none. -/
def overlay (under : Loose) (name : String) (value : Loose) : Loose :=
  let members := match under with
    | .table members => members
    | _ => []
  let name := Text.lower name
  match value with
  | .table incoming =>
    .table (Loose.put members name (overlayAll ((members.lookup name).getD (.table [])) incoming))
  | value => .table (Loose.put members name value)

def overlayAll (under : Loose) : List (String × Loose) → Loose
  | [] => under
  | (name, value) :: members => overlayAll (overlay under name value) members

end

/-! ## Paths -/

inductive Step
  | member (name : String)
  | item (index : Nat)
deriving Repr, DecidableEq

namespace Step

def isNameChar (c : Char) : Bool :=
  ('a' ≤ c && c ≤ 'z') || ('A' ≤ c && c ≤ 'Z') || ('0' ≤ c && c ≤ '9') || c == '_' || c == '-'

def name? (cs : List Char) : Option (Step × List Char) :=
  let name := cs.takeWhile isNameChar
  if name.isEmpty then none
  else some (.member (String.ofList name), cs.dropWhile isNameChar)

def index? (cs : List Char) : Option (Step × List Char) :=
  let digits := (cs.dropWhile (· == ' ')).takeWhile Number.isDigit
  let rest := (cs.dropWhile (· == ' ')).drop digits.length
  match rest.dropWhile (· == ' ') with
  | ']' :: rest =>
    if digits.isEmpty then none else some (.item (Number.digitsValue digits), rest)
  | _ => none

def more? : Nat → List Char → Option (List Step)
  | 0, _ => none
  | fuel + 1, cs => do
    match cs with
    | [] => return []
    | '.' :: cs =>
      let (step, rest) ← name? cs
      return step :: (← more? fuel rest)
    | '[' :: cs =>
      let (step, rest) ← index? cs
      return step :: (← more? fuel rest)
    | _ => none

/-- The steps that a key such as `lexicon.languages[0]` describes. A key of another form is a
name as it stands. -/
def ofKey (key : String) : List Step :=
  let steps := do
    let (first, rest) ← name? key.toList
    return first :: (← more? (rest.length + 1) rest)
  steps.getD [.member key]

end Step

def overlayAt (value : Loose) : List Step → Loose → Loose
  | [], _ => value
  | [.member name], under => overlay under name value
  | .member name :: steps, under =>
    let members := match under with
      | .table members => members
      | _ => []
    let name := Text.lower name
    .table (Loose.put members name
      (overlayAt value steps ((members.lookup name).getD .nothing)))
  | .item i :: steps, under =>
    let items := match under with
      | .list items => items
      | _ => []
    let items := items ++ List.replicate (i + 1 - items.length) .nothing
    .list (items.set i (overlayAt value steps ((items[i]?).getD .nothing)))

def addLayer (under : Loose) (members : List (String × Loose)) : Loose :=
  members.foldl (fun under (key, value) => overlayAt value (Step.ofKey key) under) under

/-! ## Files -/

inductive LayerFormat
  | toml
  | json
  | yaml
deriving Repr, DecidableEq

namespace LayerFormat

def endings : List (String × LayerFormat) :=
  [("toml", .toml), ("json", .json), ("yaml", .yaml), ("yml", .yaml)]

def members? (format : LayerFormat) (text : String) : Option (List (String × Loose)) :=
  let root := match format with
    | .toml => (Toml.read? text).map Loose.ofToml
    | .json => (Json.readSound? text).map Loose.ofJson
    | .yaml =>
      match Yaml.read? text with
      | some (some root) => Loose.ofYaml? root
      | some none => some (.table [])
      | none => none
  match root with
  | some (.table members) => some members
  | _ => none

end LayerFormat

def endedPaths (name : String) : List (String × LayerFormat) :=
  let stem := "/".intercalate (Files.names name)
  LayerFormat.endings.map fun (ending, format) => (stem ++ "." ++ ending, format)

/-- The bytes and format of the file with a name. A file with just this name hides those with
an ending; without a known ending of its own it is none. -/
def layerFile? (files : Files.Disk) (name : String) : Option (List UInt8 × LayerFormat) :=
  match files.bytesOf? name with
  | some data =>
    ((Files.extension? name).bind fun ending => LayerFormat.endings.lookup ending).map (data, ·)
  | none =>
    (Files.fileName? name).bind fun _ =>
      (endedPaths name).findSome? fun (path, format) => (files.bytesOf? path).map (·, format)

/-- The members of the file with a name. There need not be one, but one that is there has to be
well-formed. -/
def fileLayer? (files : Files.Disk) (name : String) : Option (List (String × Loose)) :=
  match layerFile? files name with
  | none => some []
  | some (data, format) =>
    let data := match data with
      | 0xEF :: 0xBB :: 0xBF :: rest => rest
      | _ => data
    format.members? (Text.Utf8.decodeLossy data)

/-! ## Variables -/

abbrev Variables := List (String × String)

def variableValue (raw : String) : Loose :=
  match Text.lower raw with
  | "true" => .flag true
  | "false" => .flag false
  | _ =>
    match Number.int64? 10 raw.toList, Number.fraction? raw.toList with
    | some n, _ => .whole n
    | none, some x => .fraction x
    | none, none => .text raw

/-- Two low lines separate the steps in the name of a variable. -/
def variableKey? (name : String) : Option String :=
  let name := (Text.lower name).toList
  let mark := "interrupt_guard__".toList
  if mark.isPrefixOf name then
    some (".".intercalate ((String.ofList (name.drop mark.length)).splitOn "__"))
  else none

def variableLayer (vars : Variables) : List (String × Loose) :=
  vars.filterMap fun (name, raw) => (variableKey? name).map (·, variableValue raw)

end BargeIn.Settings
