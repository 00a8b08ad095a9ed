import QueryBridge.Text.Utf8

/-!
# Percent-encoding

A character outside a safe set is replaced by its UTF-8 bytes, each written as a
percent sign and two capital hexadecimal digits.  `encode` keeps only unreserved
characters; a URL component has a wider safe set and uses `encodeExcept`.
-/

namespace QueryBridge.Text.Percent

/-- Letters and digits of ASCII, and `_`, `.`, `-`, `~`. -/
def isUnreserved (c : Char) : Bool :=
  c.isAlphanum || c == '_' || c == '.' || c == '-' || c == '~'

def hexDigit (n : Nat) : Char :=
  if n < 10 then Char.ofNat (n + 48) else Char.ofNat (n + 55)

def encodeByte (b : UInt8) : List Char :=
  ['%', hexDigit (b.toNat / 16), hexDigit (b.toNat % 16)]

/-- Encodes every character that is not safe. -/
def encodeExcept (isSafe : Char → Bool) (text : List Char) : List Char :=
  text.flatMap fun c =>
    if isSafe c then [c] else (String.utf8EncodeChar c).flatMap encodeByte

def encodeChars (text : List Char) : List Char :=
  encodeExcept isUnreserved text

def encode (text : String) : String :=
  String.ofList (encodeChars text.toList)

/-! ## Decoding -/

def hexValue? (c : Char) : Option Nat :=
  if c.isDigit then some (c.toNat - 48)
  else if 'a' ≤ c && c ≤ 'f' then some (c.toNat - 87)
  else if 'A' ≤ c && c ≤ 'F' then some (c.toNat - 55)
  else none

/-- The bytes that a text stands for: a percent sign with two hexadecimal digits is
one byte, every other character is its own encoding. -/
def decodeBytes : List Char → List UInt8
  | '%' :: high :: low :: rest =>
      match hexValue? high, hexValue? low with
      | some h, some l => UInt8.ofNat (16 * h + l) :: decodeBytes rest
      | _, _ => 0x25 :: decodeBytes (high :: low :: rest)
  | c :: rest => String.utf8EncodeChar c ++ decodeBytes rest
  | [] => []

/-- The decoded text, with replacement characters for bytes that are no UTF-8. -/
def decode (text : String) : String :=
  String.ofList (Utf8.decodeLossy (decodeBytes text.toList))

end QueryBridge.Text.Percent
