import BargeIn.Number.Binary64

/-!
# Decimal numerals

Reading whole numbers and decimal fractions. A fraction is read as the nearest binary number, by
exact arithmetic on its digits; a numeral too large for the format is infinite.
-/

set_option autoImplicit false

namespace BargeIn.Number

def isDigit (c : Char) : Bool :=
  '0' ≤ c && c ≤ '9'

def digitValue (c : Char) : Nat :=
  c.toNat - '0'.toNat

def digitsValue (cs : List Char) : Nat :=
  cs.foldl (fun n c => 10 * n + digitValue c) 0

def baseDigit? (base : Nat) (c : Char) : Option Nat :=
  let value :=
    if isDigit c then digitValue c
    else if 'a' ≤ c && c ≤ 'f' then c.toNat - 'a'.toNat + 10
    else if 'A' ≤ c && c ≤ 'F' then c.toNat - 'A'.toNat + 10
    else base
  if value < base then some value else none

def natural? (base : Nat) (cs : List Char) : Option Nat :=
  if cs.isEmpty then none
  else cs.foldlM (fun n c => (baseDigit? base c).map (base * n + ·)) 0

def takeSign : List Char → Bool × List Char
  | '-' :: cs => (true, cs)
  | '+' :: cs => (false, cs)
  | cs => (false, cs)

def integer? (base : Nat) (cs : List Char) : Option Int :=
  let (negative, digits) := takeSign cs
  (natural? base digits).map fun n => if negative then -(n : Int) else n

def inInt64 (n : Int) : Bool :=
  -(twoTo 63 : Int) ≤ n && n < twoTo 63

def int64? (base : Nat) (cs : List Char) : Option Int :=
  (integer? base cs).filter inInt64

def word64? (base : Nat) (cs : List Char) : Option Nat :=
  let digits := match cs with
    | '+' :: rest => rest
    | _ => cs
  (natural? base digits).filter (· < twoTo 64)

/-- The number nearest to `digits · 10^exponent`. Exponents far outside the format are settled
by the number of digits alone. -/
def ofDecimal (digits : List Char) (exponent : Int) : Binary64 :=
  let value := digitsValue digits
  let order := (digits.dropWhile (· == '0')).length + exponent
  if value = 0 || order < -400 then .zero
  else if 400 < order then .infinity
  else if 0 ≤ exponent then .ofRatio (value * tenTo exponent.toNat) 1
  else .ofRatio value (tenTo (-exponent).toNat)

def exponent? : List Char → Option Int
  | [] => some 0
  | c :: cs => if c == 'e' || c == 'E' then integer? 10 cs else none

def unsignedFraction? (cs : List Char) : Option Binary64 :=
  let whole := cs.takeWhile isDigit
  let rest := cs.dropWhile isDigit
  let (part, tail) := match rest with
    | '.' :: more => (more.takeWhile isDigit, more.dropWhile isDigit)
    | _ => ([], rest)
  if whole.isEmpty && part.isEmpty then none
  else (exponent? tail).map fun e => ofDecimal (whole ++ part) (e - part.length)

def latinLower (cs : List Char) : List Char :=
  cs.map fun c => if 'A' ≤ c && c ≤ 'Z' then Char.ofNat (c.toNat + 32) else c

def fraction? (cs : List Char) : Option Binary64 :=
  let (negative, rest) := takeSign cs
  let magnitude := match String.ofList (latinLower rest) with
    | "inf" | "infinity" => some Binary64.infinity
    | "nan" => some Binary64.nan
    | _ => unsignedFraction? rest
  magnitude.map fun x => if negative then x.neg else x

end BargeIn.Number
