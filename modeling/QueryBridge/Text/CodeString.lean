/-!
# Strings of code points

A string that comes from outside can hold surrogates that stand alone.  Such a string is no text;
it is kept as its code points.
-/

namespace QueryBridge

/-- Code points some of which are no characters. -/
structure BrokenText where
  codes : List Nat
  isBroken : codes.all (fun code => code.isValidChar) = false
deriving Repr, DecidableEq

inductive CodeString where
  | text (value : String)
  | broken (value : BrokenText)
deriving Repr, DecidableEq

namespace CodeString

instance : Coe String CodeString :=
  ⟨text⟩

/-- The string with the given code points. -/
def ofCodes (codes : List Nat) : CodeString :=
  if h : codes.all (fun code => code.isValidChar) = true then
    .text (String.ofList (codes.map Char.ofNat))
  else .broken ⟨codes, Bool.eq_false_iff.mpr h⟩

def codes : CodeString → List Nat
  | .text value => value.toList.map Char.toNat
  | .broken value => value.codes

instance : Append CodeString :=
  ⟨fun first second => ofCodes (first.codes ++ second.codes)⟩

/-- The strings with a separator between them. -/
def join (separator : CodeString) (strings : List CodeString) : CodeString :=
  ofCodes (separator.codes.intercalate (strings.map codes))

def length (string : CodeString) : Nat :=
  string.codes.length

def text? : CodeString → Option String
  | .text value => some value
  | .broken _ => none

end CodeString

end QueryBridge
