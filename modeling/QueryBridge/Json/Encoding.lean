import QueryBridge.Json.Sign
import QueryBridge.Text.Utf8

/-!
# Encodings of JSON documents

A document comes as bytes in UTF-8, UTF-16 or UTF-32.  A byte order mark names the
encoding; without one, the zero bytes among the first four tell it, because a document
begins with ASCII characters.  An encoded surrogate is admitted as it is.
-/

namespace QueryBridge.Json

inductive Encoding where
  | utf8
  | utf16 (bigEndian : Bool)
  | utf32 (bigEndian : Bool)
deriving Repr, DecidableEq

namespace Encoding

/-- The encoding of a document, and its bytes without the byte order mark. -/
def detect (bytes : List UInt8) : Encoding × List UInt8 :=
  match bytes with
  | 0x00 :: 0x00 :: 0xFE :: 0xFF :: rest => (.utf32 true, rest)
  | 0xFF :: 0xFE :: 0x00 :: 0x00 :: rest => (.utf32 false, rest)
  | 0xFE :: 0xFF :: rest => (.utf16 true, rest)
  | 0xFF :: 0xFE :: rest => (.utf16 false, rest)
  | 0xEF :: 0xBB :: 0xBF :: rest => (.utf8, rest)
  | [a, b] =>
      if a = 0 then (.utf16 true, bytes)
      else if b = 0 then (.utf16 false, bytes)
      else (.utf8, bytes)
  | a :: b :: c :: d :: _ =>
      if a = 0 then (if b = 0 then .utf32 true else .utf16 true, bytes)
      else if b = 0 then (if c = 0 && d = 0 then .utf32 false else .utf16 false, bytes)
      else (.utf8, bytes)
  | _ => (.utf8, bytes)

def wordOf (bigEndian : Bool) (first second : Nat) : Nat :=
  if bigEndian then first * 256 + second else second * 256 + first

/-- The 16-bit units of the bytes, if there is an even count of bytes. -/
def units16? (bigEndian : Bool) : List UInt8 → Option (List Nat)
  | a :: b :: rest =>
      (units16? bigEndian rest).map fun units => wordOf bigEndian a.toNat b.toNat :: units
  | [] => some []
  | [_] => none

/-- The 32-bit units of the bytes, if the count of bytes is divisible by four. -/
def units32? (bigEndian : Bool) : List UInt8 → Option (List Nat)
  | a :: b :: c :: d :: rest =>
      let first := wordOf bigEndian a.toNat b.toNat
      let second := wordOf bigEndian c.toNat d.toNat
      let unit := if bigEndian then first * 65536 + second else second * 65536 + first
      (units32? bigEndian rest).map fun units => unit :: units
  | [] => some []
  | _ => none

/-- The code points of 16-bit units: a high and a low surrogate make one. -/
def codesOfUnits16 : List Nat → List Nat
  | high :: low :: rest =>
      if 0xD800 ≤ high && high ≤ 0xDBFF && 0xDC00 ≤ low && low ≤ 0xDFFF then
        (0x10000 + (high - 0xD800) * 0x400 + (low - 0xDC00)) :: codesOfUnits16 rest
      else
        high :: codesOfUnits16 (low :: rest)
  | units => units

def signOf? : Text.Utf8.Piece → Option Sign
  | .char c => some (.char c)
  | .surrogate code => some (.surrogate code)
  | .invalid => none

end Encoding

/-- The signs of a document, if its bytes are well formed. -/
def decode? (bytes : List UInt8) : Option (List Sign) :=
  match Encoding.detect bytes with
  | (.utf8, rest) => (Text.Utf8.pieces rest).mapM Encoding.signOf?
  | (.utf16 bigEndian, rest) =>
      (Encoding.units16? bigEndian rest).map fun units =>
        (Encoding.codesOfUnits16 units).map Sign.ofCode
  | (.utf32 bigEndian, rest) => do
      let units ← Encoding.units32? bigEndian rest
      if units.all (· < 0x110000) then some (units.map Sign.ofCode) else none

end QueryBridge.Json
