/-!
# UTF-8

Reading bytes as text, one byte at a time. A sequence that cannot be continued to a character is
cut off before the byte that rules it out, and each such sequence counts as one fault.
-/

set_option autoImplicit false

namespace BargeIn.Text.Utf8

structure Begun where
  bits : Nat
  owed : Nat
  low : Nat := 0x80
  high : Nat := 0xBF

inductive First
  | char (c : Char)
  | begun (b : Begun)
  | fault

def first (byte : Nat) : First :=
  if byte < 0x80 then .char (Char.ofNat byte)
  else if byte < 0xC2 then .fault
  else if byte < 0xE0 then .begun ⟨byte - 0xC0, 1, 0x80, 0xBF⟩
  else if byte < 0xF0 then
    .begun ⟨byte - 0xE0, 2, if byte = 0xE0 then 0xA0 else 0x80, if byte = 0xED then 0x9F else 0xBF⟩
  else if byte < 0xF5 then
    .begun ⟨byte - 0xF0, 3, if byte = 0xF0 then 0x90 else 0x80, if byte = 0xF4 then 0x8F else 0xBF⟩
  else .fault

/-- The characters of a row of bytes, with `none` for each fault. -/
def chars : Option Begun → List UInt8 → List (Option Char)
  | none, [] => []
  | some _, [] => [none]
  | none, byte :: bytes =>
    match first byte.toNat with
    | .char c => some c :: chars none bytes
    | .begun b => chars (some b) bytes
    | .fault => none :: chars none bytes
  | some b, byte :: bytes =>
    let n := byte.toNat
    if b.low ≤ n && n ≤ b.high then
      let bits := b.bits * 64 + n % 64
      if b.owed ≤ 1 then some (Char.ofNat bits) :: chars none bytes
      else chars (some { bits, owed := b.owed - 1 }) bytes
    else
      none :: match first n with
        | .char c => some c :: chars none bytes
        | .begun b => chars (some b) bytes
        | .fault => none :: chars none bytes

def decode? (bytes : List UInt8) : Option String :=
  ((chars none bytes).mapM id).map String.ofList

def decodeLossy (bytes : List UInt8) : String :=
  String.ofList ((chars none bytes).map (·.getD '\ufffd'))

def encode (s : String) : List UInt8 :=
  s.toUTF8.toList

end BargeIn.Text.Utf8
