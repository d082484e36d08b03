import BargeIn.Number.Binary64

/-!
# Instants and durations

A point in time is a whole number of nanoseconds from an arbitrary origin. There is a last one:
a sum beyond it is not representable. A number of seconds becomes the nearest whole number of
nanoseconds, a tie the even one; negative numbers, infinities and numbers beyond the longest
duration have none.
-/

set_option autoImplicit false

namespace BargeIn

open Number

def nanosPerSecond : Nat := 1000000000

structure Instant where
  nanos : Int
deriving Repr, DecidableEq, Inhabited

namespace Instant

instance : LE Instant := ⟨fun a b => a.nanos ≤ b.nanos⟩

instance : LT Instant := ⟨fun a b => a.nanos < b.nanos⟩

instance (a b : Instant) : Decidable (a ≤ b) := inferInstanceAs (Decidable (a.nanos ≤ b.nanos))

instance (a b : Instant) : Decidable (a < b) := inferInstanceAs (Decidable (a.nanos < b.nanos))

def origin : Instant := ⟨0⟩

def latest : Instant := ⟨twoTo 63 * nanosPerSecond - 1⟩

/-- The instant a duration later, unless that lies beyond the last one. -/
def add? (a : Instant) (nanos : Nat) : Option Instant :=
  if a.nanos + nanos ≤ latest.nanos then some ⟨a.nanos + nanos⟩ else none

/-- The time since an earlier instant; none if it is not earlier. -/
def since (a earlier : Instant) : Nat :=
  (a.nanos - earlier.nanos).toNat

/-- The whole millisecond at or after an instant, where negative times count as zero. -/
def tick (a : Instant) : Nat :=
  (a.nanos.toNat + 999999) / 1000000

def ofMillis (ms : Nat) : Instant := ⟨ms * 1000000⟩

end Instant

def longestDuration : Nat := twoTo 64 * nanosPerSecond - 1

def secondsMagnitude (x : Binary64) : Nat :=
  roundRatio (x.units * nanosPerSecond) Binary64.scale

def nanosOfSeconds? (x : Binary64) : Option Nat :=
  if x.isFinite && !x.isBelowZero then
    let nanos := secondsMagnitude x
    if nanos ≤ longestDuration then some nanos else none
  else none

end BargeIn
