import BargeIn.Lexicon.Classifier

/-!
# Lexicon settings

Which fillers and stop phrases a deployment uses: the built-in lists of some languages or a list
of its own, and additions to both kinds. Words that carry meaning as often as not are on no
built-in list.
-/

set_option autoImplicit false

namespace BargeIn

namespace Lexicon

def builtinFillers : Language → List String
  | .english => ["uh", "um", "umm", "uhh", "hmm", "hm", "mhm", "mmm", "ah", "ahh", "er", "err",
      "like", "you know", "i mean"]
  | .hindi => ["haan", "haa", "accha", "achha", "theek", "theek hai", "matlab", "हाँ", "हां",
      "अच्छा", "ठीक", "ठीक है"]
  | .spanish => ["eh", "este", "pues"]
  | .french => ["euh", "ben", "alors"]
  | .german => ["äh", "ähm", "also"]

def builtinStops : List String :=
  ["stop", "wait", "chup", "shaant", "shant", "ruko", "rukho", "enough", "quiet", "silence",
    "khamosh", "hold on"]

def taggedFillers (languages : List Language) : List (Option Language × String) :=
  languages.flatMap fun l => (builtinFillers l).map fun word => (some l, word)

end Lexicon

open Lexicon in
def Classifier.withDefaults : Classifier :=
  match Vocabulary.build (taggedFillers Language.all) builtinStops with
  | .ok vocabulary => ⟨vocabulary, true⟩
  | .error _ => ⟨.empty, true⟩

namespace Lexicon

structure Config where
  enabled : Bool := true
  languages : List Language := Language.all
  /-- Replaces the built-in fillers. -/
  ignoredWords : Option (List String) := none
  fillers : PerLanguage (Option (List String)) := .const none
  /-- Replaces the built-in stop phrases. -/
  stopWords : Option (List String) := none
  extraStopWords : List String := []
deriving Repr, DecidableEq

namespace Config

def fillerEntries (c : Config) : List (Option Language × String) :=
  let base := match c.ignoredWords with
    | some words => words.map fun word => (none, word)
    | none => taggedFillers c.languages
  base ++ c.fillers.toList.flatMap fun (l, words) =>
    (words.getD []).map fun word => (some l, word)

def stopEntries (c : Config) : List String :=
  c.stopWords.getD builtinStops ++ c.extraStopWords

def classifier (c : Config) : Except Ambiguity Classifier :=
  (Vocabulary.build c.fillerEntries c.stopEntries).map fun v => ⟨v, c.enabled⟩

end Config

end Lexicon

end BargeIn
