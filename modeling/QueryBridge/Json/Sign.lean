import QueryBridge.Text.CodeString

/-!
# The signs of documents

A document is a sequence of characters and of surrogates that its encoding has let through.
-/

namespace QueryBridge.Json

inductive Sign where
  | char (c : Char)
  | surrogate (code : Nat)
deriving Repr, DecidableEq

namespace Sign

/-- The sign with the given code point. -/
def ofCode (code : Nat) : Sign :=
  if code.isValidChar then .char (Char.ofNat code) else .surrogate code

def code : Sign → Nat
  | .char c => c.toNat
  | .surrogate code => code

def char? : Sign → Option Char
  | .char c => some c
  | .surrogate _ => none

/-- Whether the sign is a character with the given property. -/
def satisfies (p : Char → Bool) : Sign → Bool
  | .char c => p c
  | .surrogate _ => false

def ofText (text : List Char) : List Sign :=
  text.map .char

def ofString (string : CodeString) : List Sign :=
  string.codes.map ofCode

end Sign

end QueryBridge.Json
