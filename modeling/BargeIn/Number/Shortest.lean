import BargeIn.Number.Binary64

/-!
# Shortest decimal text

Writes a binary number with the fewest digits that read back as it, without an exponent and
without a point for whole numbers. On the decimal grid of one digit, two digits and so on the two
neighbours of the number are tried; the first grid with a neighbour that reads back gives the
digits.
-/

set_option autoImplicit false

namespace BargeIn.Number

structure Scaled where
  digits : Nat
  exponent : Int
deriving Repr, DecidableEq

def Scaled.reduced (d : Scaled) : Scaled :=
  if 0 < d.digits && d.digits % 10 = 0 then Scaled.reduced ⟨d.digits / 10, d.exponent + 1⟩ else d
termination_by d.digits
decreasing_by grind

namespace Binary64

/-- Four times the magnitude in units, and the ends of the interval of numbers that read back as
it, on the same scale. A tie belongs to the number whose significand is even. -/
def readBack (x : Binary64) : Nat × Nat × Bool :=
  let low := if x.fraction = 0 && 1 < x.exponentField then x.ulp else 2 * x.ulp
  (4 * x.units - low, 4 * x.units + 2 * x.ulp, x.significand % 2 = 0)

def onScale (d : Scaled) : Nat × Nat :=
  if 0 ≤ d.exponent then (4 * d.digits * tenTo d.exponent.toNat * scale, 1)
  else (4 * d.digits * scale, tenTo (-d.exponent).toNat)

def readsBack (x : Binary64) (d : Scaled) : Bool :=
  let (low, high, closed) := x.readBack
  let (num, den) := onScale d
  if closed then low * den ≤ num && num ≤ high * den
  else low * den < num && num < high * den

def decimalOrder (units : Nat) : Int :=
  if scale ≤ units then ((Nat.toDigits 10 (units / scale)).length : Int)
  else 1 - ((Nat.toDigits 10 ((scale - 1) / units)).length : Int)

def floorDigits (units : Nat) (exponent : Int) : Nat :=
  if 0 ≤ exponent then units / (scale * tenTo exponent.toNat)
  else units * tenTo (-exponent).toNat / scale

def distance (x : Binary64) (d : Scaled) : Nat :=
  let (num, den) := onScale d
  let own := 4 * x.units * den
  (num - own) + (own - num)

/-- A neighbour on the grid with the given exponent that reads back; the nearer one of two. -/
def onGrid? (x : Binary64) (exponent : Int) : Option Scaled :=
  let below : Scaled := ⟨floorDigits x.units exponent, exponent⟩
  let above : Scaled := ⟨below.digits + 1, exponent⟩
  match 0 < below.digits && x.readsBack below, x.readsBack above with
  | true, true =>
    let near := x.distance below
    let far := x.distance above
    some (if near < far || (near == far && below.digits % 2 == 0) then below else above)
  | true, false => some below
  | false, true => some above
  | false, false => none

def shortestFrom (x : Binary64) (order : Int) : Nat → Scaled
  | 0 => ⟨floorDigits x.units (order - 17), order - 17⟩
  | left + 1 =>
    let exponent := order - (17 - left : Nat)
    (x.onGrid? exponent).getD (shortestFrom x order left)

def shortest (x : Binary64) : Scaled :=
  (x.shortestFrom (decimalOrder x.units) 17).reduced

end Binary64

def Scaled.positional (d : Scaled) : String :=
  let digits := Nat.toDigits 10 d.digits
  if 0 ≤ d.exponent then String.ofList (digits ++ List.replicate d.exponent.toNat '0')
  else
    let places := (-d.exponent).toNat
    let padded := List.replicate (places + 1 - digits.length) '0' ++ digits
    String.ofList (padded.take (padded.length - places) ++ '.' ::
      padded.drop (padded.length - places))

def Binary64.text (x : Binary64) : String :=
  if x.isNaN then "NaN"
  else
    let magnitude :=
      if x.isInfinite then "inf" else if x.isZero then "0" else x.shortest.positional
    if x.isNegative then "-" ++ magnitude else magnitude

end BargeIn.Number
