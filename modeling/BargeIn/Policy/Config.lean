import BargeIn.Fault
import BargeIn.Number.Shortest
import BargeIn.Time.Instant

/-!
# Interruption settings

Durations are given in seconds. They are checked one by one, in a fixed order, and each is bounded
by an hour; whether checked or not, each has a duration within these bounds.
-/

set_option autoImplicit false

namespace BargeIn

open Number

inductive SecondsFault
  | notFinite (x : Binary64)
  | negative (x : Binary64)
  | tooLong (x : Binary64)
  | zero
deriving Repr, DecidableEq

def maxSeconds : Nat := 3600

namespace SecondsFault

def reason : SecondsFault → String
  | .notFinite x => s!"must be finite, got {x.text}"
  | .negative x => s!"must not be negative, got {x.text}"
  | .tooLong x => s!"must be at most {maxSeconds} seconds, got {x.text}"
  | .zero => "must be greater than zero"

end SecondsFault

def checkSeconds (x : Binary64) : Except SecondsFault Unit :=
  if !x.isFinite then .error (.notFinite x)
  else if x.isBelowZero then .error (.negative x)
  else if x.exceeds maxSeconds then .error (.tooLong x)
  else .ok ()

/-- The duration of a number of seconds cut to the bounds; not-a-number counts as zero. -/
def boundedNanos (x : Binary64) : Nat :=
  if x.isNaN || x.isNegative then 0
  else if x.isInfinite || x.exceeds maxSeconds then maxSeconds * nanosPerSecond
  else secondsMagnitude x

namespace Policy

structure Config where
  /-- Stop commands interrupt even where other speech must not. -/
  allowInterruptions : Bool := true
  minInterruptionDuration : Binary64 := .ofRatio 1 2
  minInterruptionWords : Nat := 1
  falseInterruptionTimeout : Binary64 := .ofNat 2
  acknowledgments : List String :=
    ["ok", "okay", "sure", "alright", "all right", "got it", "stopping", "ok stopping",
      "okay stopping", "sure stopping", "alright stopping"]
  ackSuppressionWindow : Binary64 := .ofNat 5
deriving Repr, DecidableEq

namespace Config

def minDuration (c : Config) : Nat := boundedNanos c.minInterruptionDuration

def resumeTimeout (c : Config) : Nat := boundedNanos c.falseInterruptionTimeout

def ackWindow (c : Config) : Nat := boundedNanos c.ackSuppressionWindow

def nonzero (x : Binary64) : Except SecondsFault Unit :=
  if x.isZero then .error .zero else .ok ()

def named (field : String) (checked : Except SecondsFault Unit) : Except Fault Unit :=
  checked.mapError fun fault => ⟨s!"interruption.{field}", fault.reason⟩

/-- The checks in the order in which they are reported. -/
def validate (c : Config) : Except Fault Unit := do
  named "min_interruption_duration" (checkSeconds c.minInterruptionDuration)
  named "ack_suppression_window" (checkSeconds c.ackSuppressionWindow)
  named "false_interruption_timeout" (checkSeconds c.falseInterruptionTimeout)
  named "false_interruption_timeout" (nonzero c.falseInterruptionTimeout)

end Config

end Policy

end BargeIn
