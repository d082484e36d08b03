/-!
# Binary floating point

Numbers of the 64-bit binary format, taken as the exact rationals they denote. All arithmetic is
on integers: the magnitude of a finite number is a whole multiple of 2⁻¹⁰⁷⁴, and a quotient is
rounded to the nearest number of the format, a tie to the one with an even last bit.
-/

set_option autoImplicit false

namespace BargeIn.Number

def twoTo (n : Nat) : Nat := Nat.pow 2 n

def tenTo (n : Nat) : Nat := Nat.pow 10 n

structure Binary64 where
  bits : UInt64
deriving Repr, DecidableEq

/-- The nearest whole number to a quotient; a tie goes to the even one. -/
def roundRatio (num den : Nat) : Nat :=
  let q := num / den
  let r := num % den
  if 2 * r < den then q
  else if den < 2 * r then q + 1
  else q + q % 2

namespace Binary64

def scale : Nat := twoTo 1074

def infinityBits : Nat := 0x7FF0000000000000

def magnitudeBits (x : Binary64) : Nat :=
  x.bits.toNat % twoTo 63

def isNegative (x : Binary64) : Bool :=
  twoTo 63 ≤ x.bits.toNat

def isNaN (x : Binary64) : Bool :=
  infinityBits < x.magnitudeBits

def isInfinite (x : Binary64) : Bool :=
  x.magnitudeBits = infinityBits

def isFinite (x : Binary64) : Bool :=
  x.magnitudeBits < infinityBits

def exponentField (x : Binary64) : Nat :=
  x.magnitudeBits / twoTo 52

def fraction (x : Binary64) : Nat :=
  x.magnitudeBits % twoTo 52

def significand (x : Binary64) : Nat :=
  if x.exponentField = 0 then x.fraction else twoTo 52 + x.fraction

def ulp (x : Binary64) : Nat :=
  twoTo (x.exponentField - 1)

/-- The magnitude of a finite number in units of 2⁻¹⁰⁷⁴. -/
def units (x : Binary64) : Nat :=
  x.significand * x.ulp

def isZero (x : Binary64) : Bool :=
  x.magnitudeBits = 0

/-- Whether a finite number is less than zero. Negative zero is not. -/
def isBelowZero (x : Binary64) : Bool :=
  x.isNegative && !x.isZero

def ofMagnitude (negative : Bool) (bits : Nat) : Binary64 :=
  ⟨UInt64.ofNat (if negative then twoTo 63 + bits else bits)⟩

def zero : Binary64 := ⟨0⟩

def one : Binary64 := ⟨0x3FF0000000000000⟩

def infinity : Binary64 := ofMagnitude false infinityBits

def nan : Binary64 := ⟨0x7FF8000000000000⟩

def neg (x : Binary64) : Binary64 :=
  ofMagnitude (!x.isNegative) x.magnitudeBits

def floorLog (num den : Nat) : Int :=
  let k : Int := (num.log2 : Int) - den.log2
  let reaches := if 0 ≤ k then den * twoTo k.toNat ≤ num else den ≤ num * twoTo (-k).toNat
  if reaches then k else k - 1

def ratioBits (num den : Nat) : Nat :=
  if num = 0 then 0
  else
    let e := max (floorLog num den - 52) (-1074)
    let q := if 0 ≤ e then roundRatio num (den * twoTo e.toNat)
      else roundRatio (num * twoTo (-e).toNat) den
    min ((e + 1074).toNat * twoTo 52 + q) infinityBits

def ofRatio (num den : Nat) : Binary64 :=
  ofMagnitude false (ratioBits num den)

def ofNat (n : Nat) : Binary64 :=
  ofRatio n 1

def ofInt (n : Int) : Binary64 :=
  ofMagnitude (n < 0) (ratioBits n.natAbs 1)

def mulMagnitude (x y : Binary64) : Binary64 :=
  ofRatio (x.units * y.units) (scale * scale)

def divMagnitude (x y : Binary64) : Binary64 :=
  ofRatio x.units y.units

def exceeds (x : Binary64) (n : Nat) : Bool :=
  n * scale < x.units

def roundUpMagnitude (x : Binary64) : Nat :=
  (2 * x.units + scale) / (2 * scale)

end Binary64

end BargeIn.Number
