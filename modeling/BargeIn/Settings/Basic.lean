import BargeIn.Lexicon.Config
import BargeIn.Policy.Config
import BargeIn.Text.Quotation

/-!
# Settings

All that a deployment configures, and the checks that hold of the settings as a whole.
-/

set_option autoImplicit false

namespace BargeIn

inductive Environment
  | development
  | staging
  | production
deriving Repr, DecidableEq

namespace Environment

def all : List Environment := [.development, .staging, .production]

def name : Environment → String
  | .development => "development"
  | .staging => "staging"
  | .production => "production"

/-- Whether settings that make no sense are refused, and not only warned of. -/
def isStrict : Environment → Bool
  | .development => false
  | .staging | .production => true

end Environment

structure Observability where
  logLevel : String := "info"
  logJson : Bool := false
deriving Repr, DecidableEq

structure Settings where
  environment : Environment := .development
  observability : Observability := {}
  lexicon : Lexicon.Config := {}
  interruption : Policy.Config := {}
  lexiconPath : Option String := none
deriving Repr, DecidableEq

namespace Settings

def logLevels : List String := ["trace", "debug", "info", "warn", "error", "off"]

/-- Without any fillers all speech would interrupt. -/
def checkLexicon (s : Settings) : Except Fault Unit :=
  if s.environment.isStrict && s.lexicon.languages.isEmpty && s.lexicon.ignoredWords.isNone then
    .error ⟨"lexicon.languages", "No languages and no ignored_words configured"⟩
  else .ok ()

def checkLogLevel (s : Settings) : Except Fault Unit :=
  let level := Text.lowerLatin s.observability.logLevel
  if level.toList.contains '=' || logLevels.contains level then .ok ()
  else .error ⟨"observability.log_level",
    "Unknown log level " ++ Text.quotation s.observability.logLevel⟩

def validate (s : Settings) : Except Fault Unit := do
  s.interruption.validate
  s.checkLexicon
  s.checkLogLevel

end Settings

end BargeIn
