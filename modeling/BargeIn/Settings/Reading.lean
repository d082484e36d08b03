import BargeIn.Document.Readable
import BargeIn.Settings.Basic

/-!
# Reading settings

How settings are read from the values of a document, whatever its format. A field that is missing
has its default, a field that is not known is passed over, and a field that is known but does not
fit makes the whole unreadable.
-/

set_option autoImplicit false

namespace BargeIn

open Document

variable {ν : Type} [Readable ν]

namespace Language

def read? (v : ν) : Option Language :=
  (choice? (spellings.map (·.1)) v).bind fun name => spellings.lookup name

end Language

namespace Lexicon

/-- Fillers by language. Of two spellings of a language the later one counts. -/
def readFillers? (v : ν) : Option (PerLanguage (Option (List String))) := do
  (← entries? v).foldlM (fun fillers (key, words) => do
    let language ← Language.spellings.lookup key
    return fillers.set language (some (← texts? words))) (.const none)

namespace Config

def fieldNames : List String :=
  ["enabled", "languages", "ignored_words", "fillers", "stop_words", "extra_stop_words"]

def read? (v : ν) : Option Config := do
  let fields ← fields? fieldNames v
  let default : Config := {}
  return {
    enabled := ← field? fields "enabled" flag? default.enabled
    languages := ← field? fields "languages" (fun v => (items? v).bind (·.mapM Language.read?))
      default.languages
    ignoredWords := ← field? fields "ignored_words" (optional? texts?) default.ignoredWords
    fillers := ← field? fields "fillers" readFillers? default.fillers
    stopWords := ← field? fields "stop_words" (optional? texts?) default.stopWords
    extraStopWords := ← field? fields "extra_stop_words" texts? default.extraStopWords }

end Config

end Lexicon

namespace Policy.Config

def fieldNames : List String :=
  ["allow_interruptions", "min_interruption_duration", "min_interruption_words",
    "false_interruption_timeout", "acknowledgments", "ack_suppression_window"]

def read? (v : ν) : Option Config := do
  let fields ← fields? fieldNames v
  let default : Config := {}
  return {
    allowInterruptions := ← field? fields "allow_interruptions" flag? default.allowInterruptions
    minInterruptionDuration :=
      ← field? fields "min_interruption_duration" fraction? default.minInterruptionDuration
    minInterruptionWords :=
      ← field? fields "min_interruption_words" count? default.minInterruptionWords
    falseInterruptionTimeout :=
      ← field? fields "false_interruption_timeout" fraction? default.falseInterruptionTimeout
    acknowledgments := ← field? fields "acknowledgments" texts? default.acknowledgments
    ackSuppressionWindow :=
      ← field? fields "ack_suppression_window" fraction? default.ackSuppressionWindow }

end Policy.Config

namespace Environment

def read? (v : ν) : Option Environment := do
  let name ← choice? (all.map name) v
  all.find? (·.name == name)

end Environment

namespace Observability

def read? (v : ν) : Option Observability := do
  let fields ← fields? ["log_level", "log_json"] v
  let default : Observability := {}
  return {
    logLevel := ← field? fields "log_level" text? default.logLevel
    logJson := ← field? fields "log_json" flag? default.logJson }

end Observability

namespace Settings

def fieldNames : List String :=
  ["environment", "observability", "lexicon", "interruption", "lexicon_path"]

def read? (v : ν) : Option Settings := do
  let fields ← fields? fieldNames v
  let default : Settings := {}
  return {
    environment := ← field? fields "environment" Environment.read? default.environment
    observability := ← field? fields "observability" Observability.read? default.observability
    lexicon := ← field? fields "lexicon" Lexicon.Config.read? default.lexicon
    interruption := ← field? fields "interruption" Policy.Config.read? default.interruption
    lexiconPath := ← field? fields "lexicon_path" (optional? text?) default.lexiconPath }

end Settings

end BargeIn
