import BargeIn.Document.Json
import BargeIn.Document.Toml.Value
import BargeIn.Document.Yaml.Values
import BargeIn.Files.Tree
import BargeIn.Settings.Reading
import BargeIn.Text.Case

/-!
# Lexicon files

A file of its own with further fillers and stop phrases. Its entries are appended to those that
are configured and never replace them. The ending of its name tells its format.
-/

set_option autoImplicit false

namespace BargeIn

open Document

structure LexiconFile where
  fillers : PerLanguage (Option (List String)) := .const none
  stopWords : List String := []
deriving Repr, DecidableEq

namespace LexiconFile

def read? {ν : Type} [Readable ν] (v : ν) : Option LexiconFile := do
  let fields ← fields? ["fillers", "stop_words"] v
  let default : LexiconFile := {}
  return {
    fillers := ← field? fields "fillers" Lexicon.readFillers? default.fillers
    stopWords := ← field? fields "stop_words" texts? default.stopWords }

inductive Format
  | yaml
  | toml
  | json
deriving Repr, DecidableEq

namespace Format

def ofExtension? (extension : String) : Option Format :=
  match Text.lowerLatin extension with
  | "yaml" | "yml" => some .yaml
  | "toml" => some .toml
  | "json" => some .json
  | _ => none

end Format

def parse? : Format → String → Option LexiconFile
  | .yaml, text => (Yaml.readValue? text).bind read?
  | .toml, text => (Toml.read? text).bind read?
  | .json, text => (Json.read? text).bind read?

/-- A file that cannot be read as text is malformed whatever its name. -/
def load (files : Files.Disk) (path : String) : Except LoadError LexiconFile :=
  match files path with
  | none => .error (.missing path)
  | some .directory => .error (.malformed none)
  | some (.bytes data) =>
    match Text.Utf8.decode? data with
    | none => .error (.malformed none)
    | some text =>
      match (Files.extension? path).bind Format.ofExtension? with
      | none => .error (.malformed (some s!"Unsupported lexicon file format: {path}"))
      | some format =>
        match parse? format text with
        | some file => .ok file
        | none => .error (.malformed none)

def extend (words : Option (List String)) (further : Option (List String)) :
    Option (List String) :=
  match further with
  | some more => some (words.getD [] ++ more)
  | none => words

def merge (file : LexiconFile) (c : Lexicon.Config) : Lexicon.Config :=
  { c with
    fillers := c.fillers.zipWith extend file.fillers
    extraStopWords := c.extraStopWords ++ file.stopWords }

end LexiconFile

end BargeIn
