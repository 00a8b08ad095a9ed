import QueryBridge.Text.CodeString

/-!
# Redaction

The secrets in a text are replaced by a mask, longer secrets first, so that no part of
a long secret is left where a shorter one occurs in it.  A redactor keeps only
secrets of at least `minLength` characters.
-/

namespace QueryBridge.Log

def star : Nat := '*'.toNat

def mask : List Nat := [star, star, star]

/-! ## Replacing one secret -/

/-- Puts the mask in place of each occurrence, from left to right; `skip` code points
still belong to an occurrence. -/
def maskFrom (secret : List Nat) : Nat → List Nat → List Nat
  | _, [] => []
  | skip + 1, _ :: text => maskFrom secret skip text
  | 0, c :: text =>
      if secret.isPrefixOf (c :: text) then
        mask ++ maskFrom secret (secret.length - 1) text
      else
        c :: maskFrom secret 0 text

/-- Puts the mask in front of every code point and at the end. -/
def maskBetween : List Nat → List Nat
  | [] => mask
  | c :: text => mask ++ c :: maskBetween text

/-- Replaces the occurrences of a secret; the empty one occurs between all code points. -/
def maskSecret (secret text : List Nat) : List Nat :=
  if secret.isEmpty then maskBetween text else maskFrom secret 0 text

/-! ## Replacing all secrets -/

/-- Longer secrets come first, equally long ones in the given order. -/
def byLength (secrets : List CodeString) : List CodeString :=
  secrets.mergeSort fun first second => second.length ≤ first.length

def redactCodes (text : List Nat) (secrets : List CodeString) : List Nat :=
  (byLength secrets).foldl (fun text secret => maskSecret secret.codes text) text

/-- The text with every secret replaced by the mask. -/
def redact (text : CodeString) (secrets : List CodeString) : CodeString :=
  .ofCodes (redactCodes text.codes secrets)

/-! ## Redactors -/

/-- The distinct secrets to be masked. -/
structure Redactor where
  secrets : List CodeString
deriving Repr, DecidableEq

namespace Redactor

/-- The least length of a secret that is masked. -/
def minLength : Nat := 4

def empty : Redactor := ⟨[]⟩

def insert (redactor : Redactor) (secret : CodeString) : Redactor :=
  if secret.length < minLength || redactor.secrets.contains secret then redactor
  else ⟨redactor.secrets ++ [secret]⟩

def add (redactor : Redactor) (secrets : List CodeString) : Redactor :=
  secrets.foldl insert redactor

def redact (redactor : Redactor) (text : CodeString) : CodeString :=
  Log.redact text redactor.secrets

end Redactor

end QueryBridge.Log
