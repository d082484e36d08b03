import BargeIn.Text.Utf8

/-!
# Files

What paths lead to, and trees of files below the working directory. Directories need not be
listed in a tree: each file implies those on its path. Paths beyond the working directory lead
nowhere.
-/

set_option autoImplicit false

namespace BargeIn.Files

def names (path : String) : List String :=
  (path.splitOn "/").filter fun name => !(name.isEmpty || name == ".")

inductive Content
  | bytes (data : List UInt8)
  | directory
deriving Repr, DecidableEq

abbrev Disk := String → Option Content

def Disk.bytesOf? (disk : Disk) (path : String) : Option (List UInt8) :=
  match disk path with
  | some (.bytes data) => some data
  | _ => none

abbrev Tree := List (List String × Content)

namespace Tree

def ofList (files : List (String × Content)) : Tree :=
  files.map fun (path, content) => (names path, content)

def contentAt (t : Tree) (place : List String) : Option Content :=
  if place.isEmpty then some .directory
  else match t.lookup place with
    | some content => some content
    | none => if t.any fun (other, _) => place.isPrefixOf other then some .directory else none

def walk (t : Tree) (place : List String) : List String → Option (List String)
  | [] => if (t.contentAt place).isSome then some place else none
  | name :: rest =>
    if t.contentAt place = some .directory then
      if name == ".." then if place.isEmpty then none else t.walk place.dropLast rest
      else t.walk (place ++ [name]) rest
    else none

/-- What a path leads to. A path that ends in a slash leads to a directory or nowhere, and so
does an absolute one. -/
def find? (t : Tree) (path : String) : Option Content :=
  if path.isEmpty then none
  else if path.startsWith "/" then if (names path).isEmpty then some .directory else none
  else
    let found := (t.walk [] (names path)).bind t.contentAt
    if path.endsWith "/" then found.filter (· = .directory) else found

def disk (t : Tree) : Disk := t.find?

end Tree

def fileName? (path : String) : Option String :=
  (names path).getLast?.filter (· != "..")

/-- What follows the last point in the last name of a path, if something precedes the point. -/
def extension? (path : String) : Option String :=
  (fileName? path).bind fun name =>
    match (name.splitOn ".").reverse with
    | last :: stem => if stem.any (! ·.isEmpty) || 1 < stem.length then some last else none
    | [] => none

end BargeIn.Files
