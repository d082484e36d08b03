import BargeIn.Document.Loose.Reading
import BargeIn.Settings.Layers
import BargeIn.Settings.LexiconFile

/-!
# Loading settings

From the layers to settings that passed all checks. Two variables that older deployments set, a list
of fillers separated by commas and a switch that only the word `true` turns on, and the lexicon file
are applied on top of the layers and before the checks.
-/

set_option autoImplicit false

namespace BargeIn

def parseWordList (raw : String) : List String :=
  let words := (raw.splitOn ",").map fun word => Text.lower (Text.trim word)
  words.filter (! ·.isEmpty)

structure FlatOverrides where
  ignoredWords : Option (List String) := none
  enabled : Option Bool := none
deriving Repr, DecidableEq

namespace FlatOverrides

/-- Reads the two variables. A list without words counts as unset. -/
def ofLookup (lookup : String → Option String) : FlatOverrides where
  ignoredWords := ((lookup "AGENT_FILLER_WORDS").map parseWordList).filter (! ·.isEmpty)
  enabled := (lookup "AGENT_FILLER_FILTER_ENABLED").map fun raw =>
    Text.lowerLatin (Text.trim raw) == "true"

def isEmpty (o : FlatOverrides) : Bool :=
  o.ignoredWords.isNone && o.enabled.isNone

def apply (o : FlatOverrides) (c : Lexicon.Config) : Lexicon.Config :=
  { c with
    ignoredWords := o.ignoredWords.or c.ignoredWords
    enabled := o.enabled.getD c.enabled }

end FlatOverrides

namespace Settings

open Document

def resolve (files : Files.Disk) (flat : FlatOverrides) (s : Settings) :
    Except LoadError Settings := do
  let lexicon := flat.apply s.lexicon
  match s.lexiconPath with
  | some path =>
    let file ← LexiconFile.load files path
    return { s with lexicon := file.merge lexicon }
  | none => return { s with lexicon }

def layerNames (environment : Option String) : List String :=
  "config/default" :: (environment.map ("config/" ++ ·)).toList

def layerPaths (environment : Option String) : List String :=
  (layerNames environment).flatMap fun name => name :: (endedPaths name).map (·.1)

def layers? (environment : Option String) (files : Files.Disk) (vars : Variables) :
    Option Loose := do
  let layers ← (layerNames environment).mapM (fileLayer? files)
  return (layers ++ [variableLayer vars]).foldl addLayer (.table [])

def layered? (environment : Option String) (files : Files.Disk) (vars : Variables) :
    Option Settings :=
  (layers? environment files vars).bind Settings.read?

def load (environment : Option String) (files : Files.Disk) (vars : Variables) :
    Except LoadError Settings := do
  match layered? environment files vars with
  | none => .error (.malformed none)
  | some s =>
    let s ← s.resolve files (.ofLookup fun name => vars.lookup name)
    (s.validate).mapError .invalid
    return s

end Settings

end BargeIn
