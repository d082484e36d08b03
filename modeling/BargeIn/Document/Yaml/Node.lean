import BargeIn.Document.Yaml.Token

/-!
# YAML nodes

The nodes that a row of tokens stands for. What is missing, such as the value of a key with
nothing behind its colon, is an empty plain scalar. An alias stands for the node it names, which
has to be complete before it. A document is refused if another one follows it.
-/

set_option autoImplicit false

namespace BargeIn.Document

inductive Yaml
  | scalar (text : String) (plain : Bool) (tag : Option String)
  | sequence (items : List Yaml) (tag : Option String)
  | mapping (members : List (Yaml × Yaml)) (tag : Option String)
deriving Repr, Inhabited

namespace Yaml

def empty : Yaml := .scalar "" true none

structure Composer where
  tokens : List Token
  anchors : List (String × Yaml) := []
  handles : List (String × String) := [("!", "!"), ("!!", "tag:yaml.org,2002:"), ("", "")]

abbrev Compose := StateT Composer Option

namespace Compose

def peek : Compose (Option Token) := do
  return (← get).tokens.head?

def drop : Compose Unit :=
  modify fun c => { c with tokens := c.tokens.drop 1 }

def accept (token : Token) : Compose Bool := do
  if (← peek) = some token then
    drop
    return true
  else return false

def expect (token : Token) : Compose Unit := do
  unless ← accept token do failure

def isBefore (ends : List Token) : Compose Bool := do
  match ← peek with
  | some token => return !ends.contains token
  | none => return false

structure Properties where
  anchor : Option String := none
  tag : Option String := none

def properties : Nat → Properties → Compose Properties
  | 0, p => return p
  | fuel + 1, p => do
    match ← peek with
    | some (.anchor name) =>
      if p.anchor.isSome then failure
      drop
      properties fuel { p with anchor := some name }
    | some (.tag handle suffix) =>
      if p.tag.isSome then failure
      match (← get).handles.lookup handle with
      | some start =>
        drop
        properties fuel { p with tag := some (start ++ suffix) }
      | none => failure
    | _ => return p

def name (anchor : Option String) (node : Yaml) : Compose Yaml := do
  match anchor with
  | some anchor => modify fun c => { c with anchors := (anchor, node) :: c.anchors }
  | none => pure ()
  return node

mutual

/-- A node. `block` allows block collections, and `flush` a sequence whose entries are not
indented. -/
def node (block flush : Bool) : Nat → Compose Yaml
  | 0 => failure
  | fuel + 1 => do
    if let some (.alias anchor) := ← peek then
      drop
      let some node := (← get).anchors.lookup anchor | failure
      return node
    let p ← properties 2 {}
    match ← peek with
    | some (.scalar text plain) =>
      drop
      name p.anchor (.scalar text plain p.tag)
    | some .flowSequence =>
      drop
      name p.anchor (.sequence (← flowItems true [] fuel) p.tag)
    | some .flowMapping =>
      drop
      name p.anchor (.mapping (← flowMembers true [] fuel) p.tag)
    | some .blockSequence =>
      if !block then failure
      drop
      name p.anchor (.sequence (← blockItems true [] fuel) p.tag)
    | some .blockMapping =>
      if !block then failure
      drop
      name p.anchor (.mapping (← blockMembers [] fuel) p.tag)
    | some .blockEntry =>
      if flush then name p.anchor (.sequence (← blockItems false [] fuel) p.tag)
      else if p.anchor.isSome || p.tag.isSome then name p.anchor (.scalar "" true p.tag)
      else failure
    | _ =>
      if p.anchor.isSome || p.tag.isSome then name p.anchor (.scalar "" true p.tag)
      else failure

def nodeBefore (block flush : Bool) (ends : List Token) : Nat → Compose Yaml
  | 0 => failure
  | fuel + 1 => do
    if ← isBefore ends then node block flush fuel else return empty

def blockItems (closed : Bool) (done : List Yaml) : Nat → Compose (List Yaml)
  | 0 => failure
  | fuel + 1 => do
    if ← accept .blockEntry then
      let ends : List Token :=
        if closed then [.blockEntry, .blockEnd] else [.blockEntry, .key, .value, .blockEnd]
      let item ← nodeBefore true false ends fuel
      blockItems closed (item :: done) fuel
    else
      if closed then expect .blockEnd
      return done.reverse

def blockMembers (done : List (Yaml × Yaml)) : Nat → Compose (List (Yaml × Yaml))
  | 0 => failure
  | fuel + 1 => do
    if ← accept .key then
      let ends : List Token := [.key, .value, .blockEnd]
      let key ← nodeBefore true true ends fuel
      let value ← if ← accept .value then nodeBefore true true ends fuel else pure empty
      blockMembers ((key, value) :: done) fuel
    else
      expect .blockEnd
      return done.reverse

/-- The items of a flow sequence; a key in it makes a mapping of one member. An empty key swallows
the token behind it. -/
def flowItems (first : Bool) (done : List Yaml) : Nat → Compose (List Yaml)
  | 0 => failure
  | fuel + 1 => do
    if ← accept .flowSequenceEnd then return done.reverse
    unless first do expect .flowEntry
    if ← accept .flowSequenceEnd then return done.reverse
    if ← accept .key then
      let ends : List Token := [.value, .flowEntry, .flowSequenceEnd]
      let isKeyGiven ← isBefore ends
      let key ← nodeBefore false false ends fuel
      unless isKeyGiven do drop
      let value ← if ← accept .value then
          nodeBefore false false [.flowEntry, .flowSequenceEnd] fuel
        else pure empty
      flowItems false (.mapping [(key, value)] none :: done) fuel
    else
      let item ← node false false fuel
      flowItems false (item :: done) fuel

def flowMembers (first : Bool) (done : List (Yaml × Yaml)) :
    Nat → Compose (List (Yaml × Yaml))
  | 0 => failure
  | fuel + 1 => do
    if ← accept .flowMappingEnd then return done.reverse
    unless first do expect .flowEntry
    if ← accept .flowMappingEnd then return done.reverse
    if ← accept .key then
      let key ← nodeBefore false false [.value, .flowEntry, .flowMappingEnd] fuel
      let value ← if ← accept .value then
          nodeBefore false false [.flowEntry, .flowMappingEnd] fuel
        else pure empty
      flowMembers false ((key, value) :: done) fuel
    else
      let key ← node false false fuel
      flowMembers false ((key, empty) :: done) fuel

end

/-- Directives stand before an explicit start: the version, once, and tag handles. -/
def directives (versions : Nat) : List Token → Compose Unit
  | .directive ["YAML", version] :: tokens => do
    unless versions = 0 && ["1.1", "1.2"].contains version do failure
    drop
    directives (versions + 1) tokens
  | .directive ["TAG", handle, start] :: tokens => do
    modify fun c => { c with handles := (handle, start) :: c.handles }
    drop
    directives versions tokens
  | .directive _ :: _ => failure
  | _ => return ()

def document : Compose (Option Yaml) := do
  let tokens := (← get).tokens
  if tokens.isEmpty then return none
  directives 0 tokens
  let rest := (← get).tokens
  let explicit ← accept .documentStart
  if !explicit && rest.length < tokens.length then failure
  let fuel := 4 * tokens.length + 4
  let root ← if explicit then nodeBefore true false [.documentStart, .documentEnd] fuel
    else node true false fuel
  modify fun c => { c with tokens := c.tokens.dropWhile (· == .documentEnd) }
  unless (← get).tokens.isEmpty do failure
  return some root

end Compose

def read? (s : String) : Option (Option Yaml) :=
  (tokens? s.toList).bind fun tokens => (Compose.document.run { tokens }).map (·.1)

end Yaml

end BargeIn.Document
