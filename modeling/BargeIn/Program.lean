import BargeIn.Replay.Playback
import BargeIn.Settings.Load

/-!
# The program

Loads the settings, builds a policy from them and plays a recorded conversation. A failure before
the first line is told on the error output.
-/

set_option autoImplicit false

namespace BargeIn.Program

inductive Failure
  | settings (cause : LoadError)
  | lexicon (cause : Ambiguity)
  | interruption (cause : Fault)
deriving Repr, DecidableEq

namespace Failure

def message : Failure → String
  | .settings _ => "Failed to load configuration"
  | .lexicon _ => "Invalid lexicon configuration"
  | .interruption _ => "Invalid interruption configuration"

def cause : Failure → String
  | .settings cause => cause.message
  | .lexicon cause => cause.message
  | .interruption cause => cause.message

def text (f : Failure) : String :=
  s!"Error: {f.message}\n\nCaused by:\n    {f.cause}"

end Failure

def environment (vars : Settings.Variables) : Option String :=
  vars.lookup "INTERRUPT_GUARD_ENV"

def layerPaths (vars : Settings.Variables) : List String :=
  Settings.layerPaths (environment vars)

def lexiconPath? (files : Files.Disk) (vars : Settings.Variables) : Option String :=
  (Settings.layered? (environment vars) files vars).bind (·.lexiconPath)

def configure (files : Files.Disk) (vars : Settings.Variables) : Except Failure Policy := do
  let settings ← (Settings.load (environment vars) files vars).mapError .settings
  let classifier ← settings.lexicon.classifier.mapError .lexicon
  (Policy.create settings.interruption classifier).mapError .interruption

structure Result where
  code : Nat
  reports : List Replay.Report := []
  failure : Option Failure := none
deriving Repr, DecidableEq

/-- Variables as the system lists them, each with its value behind the first equals sign and ended
by a null character. -/
def parseVariables (listing : String) : Settings.Variables :=
  (listing.splitOn "\x00").filterMap fun entry =>
    let (name, rest) := entry.toList.span (· != '=')
    if rest.isEmpty then none else some (String.ofList name, String.ofList rest.tail)

/-- The whole program on a clock that only pauses move. -/
def run (files : Files.Disk) (vars : Settings.Variables) (input : String) : Result :=
  match configure files vars with
  | .error failure => { code := 1, failure := some failure }
  | .ok policy =>
    let player := (Replay.Player.start policy {}).playLines (Replay.splitLines input)
    { code := 0, reports := player.finish.reports.map (·.2) }

end BargeIn.Program
