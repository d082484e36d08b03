import BargeIn.Number.Binary64

/-!
# Reading values

What the settings ask of a value in a document. Each document format answers in its own way: one
takes a number for a text and another does not, and only some know a value that stands for
nothing.
-/

set_option autoImplicit false

namespace BargeIn.Document

open Number

class Readable (ν : Type) where
  text? : ν → Option String
  flag? : ν → Option Bool
  count? : ν → Option Nat
  fraction? : ν → Option Binary64
  /-- Whether the value stands for nothing, where a value may be left out. -/
  isNothing : ν → Bool
  items? : ν → Option (List ν)
  entries? : ν → Option (List (String × ν))
  fields? : List String → ν → Option (List (String × ν))
  choice? : List String → ν → Option String

export Readable (text? flag? count? fraction? isNothing items? entries? fields? choice?)

variable {ν α : Type} [Readable ν]

def texts? (v : ν) : Option (List String) :=
  (items? v).bind (·.mapM text?)

def optional? (read : ν → Option α) (v : ν) : Option (Option α) :=
  if isNothing v then some none else (read v).map some

def field? (fields : List (String × ν)) (name : String) (read : ν → Option α) (default : α) :
    Option α :=
  match fields.lookup name with
  | some v => read v
  | none => some default

def required? (fields : List (String × ν)) (name : String) (read : ν → Option α) : Option α :=
  (fields.lookup name).bind read

/-- Values listed in the order of the fields; those at the end may be missing. -/
def positional? (names : List String) (values : List ν) : Option (List (String × ν)) :=
  if values.length ≤ names.length then some (names.zip values) else none

def knownMembers? (names : List String) (members : List (String × ν)) :
    Option (List (String × ν)) :=
  let known := members.filter fun m => names.contains m.1
  if (known.map (·.1)).Nodup then some known else none

end BargeIn.Document
