/-!
# Base 64

Three bytes are written as four characters of the standard alphabet; a last group of
one or two bytes is filled up with `=`.  Reading skips all other characters and stops
at the end of a group that is filled up.
-/

namespace QueryBridge.Text.Base64

/-- The character for a number below 64. -/
def digit (n : Nat) : Char :=
  if n < 26 then Char.ofNat (n + 65)
  else if n < 52 then Char.ofNat (n + 71)
  else if n < 62 then Char.ofNat (n - 4)
  else if n = 62 then '+'
  else '/'

def encode : List UInt8 → List Char
  | a :: b :: c :: rest =>
      let n := a.toNat * 65536 + b.toNat * 256 + c.toNat
      digit (n / 262144) :: digit (n / 4096 % 64) :: digit (n / 64 % 64) :: digit (n % 64)
        :: encode rest
  | [a, b] =>
      let n := a.toNat * 1024 + b.toNat * 4
      [digit (n / 4096), digit (n / 64 % 64), digit (n % 64), '=']
  | [a] =>
      let n := a.toNat * 16
      [digit (n / 64), digit (n % 64), '=', '=']
  | [] => []

/-! ## Reading -/

/-- The number that a character of the alphabet stands for. -/
def value? (c : Char) : Option Nat :=
  if c.isUpper then some (c.toNat - 65)
  else if c.isLower then some (c.toNat - 71)
  else if c.isDigit then some (c.toNat + 4)
  else if c = '+' then some 62
  else if c = '/' then some 63
  else none

/-- Reads on at a position in a group of four, where `left` are the bits that are not
yet part of a byte and `filled` counts the fillings at this position. -/
def decodeAt (position left filled : Nat) : List Char → Option (List UInt8)
  | [] => if position = 0 then some [] else none
  | c :: rest =>
      if c = '=' then
        if position < 2 then decodeAt position left filled rest
        else if 4 ≤ position + filled + 1 then some []
        else decodeAt position left (filled + 1) rest
      else
        match value? c, position with
        | none, _ => decodeAt position left filled rest
        | some n, 0 => decodeAt 1 n 0 rest
        | some n, 1 => (decodeAt 2 (n % 16) 0 rest).map (UInt8.ofNat (left * 4 + n / 16) :: ·)
        | some n, 2 => (decodeAt 3 (n % 4) 0 rest).map (UInt8.ofNat (left * 16 + n / 4) :: ·)
        | some n, _ => (decodeAt 0 0 0 rest).map (UInt8.ofNat (left * 64 + n) :: ·)

def decode? (text : List Char) : Option (List UInt8) :=
  decodeAt 0 0 0 text

end QueryBridge.Text.Base64
