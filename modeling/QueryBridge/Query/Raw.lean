import QueryBridge.Query
import QueryBridge.Text.CodeString

/-!
# Queries from outside

A query that comes from outside can hold surrogates that stand alone.  Its terms are read and
looked up as those of a text.  It can be escaped only if they stand in keys, which are written as
they are: a value is percent-encoded as UTF-8, and a surrogate has no encoding.
-/

namespace QueryBridge.Query.Raw

/-- A term of a query from outside. -/
structure Term where
  key : CodeString
  value : CodeString
deriving Repr, DecidableEq

def Term.ofCodes (codes : List Nat) : Term :=
  let parts := Text.cutAt '='.toNat codes
  ⟨.ofCodes parts.1, .ofCodes parts.2⟩

def terms (query : CodeString) : List Term :=
  ((Text.splitOn '&'.toNat query.codes).filter (!·.isEmpty)).map Term.ofCodes

/-! ## Looking a key up -/

def foldKey (key : CodeString) : List Nat :=
  Text.lowerCodes (Text.trimCodes key.codes)

/-- Whether a term has the given key, regardless of case and surrounding blanks. -/
def Term.HasKey (term : Term) (key : CodeString) : Prop :=
  foldKey term.key = foldKey key

instance (term : Term) (key : CodeString) : Decidable (term.HasKey key) :=
  inferInstanceAs (Decidable (foldKey term.key = foldKey key))

/-- The value of the first term whose key matches. -/
def find? (query key : CodeString) : Option CodeString :=
  ((terms query).find? (·.HasKey key)).map Term.value

/-! ## Escaping -/

def escapeKey (key : CodeString) : CodeString :=
  .ofCodes ((Text.trimCodes key.codes).map fun code =>
    if code = ' '.toNat then '+'.toNat else code)

/-- The term with its key and its value escaped, if the value is a text. -/
def Term.escape? (term : Term) : Option Term :=
  term.value.text?.map fun value => ⟨escapeKey term.key, .text (Text.Percent.encode value)⟩

def Term.spell (term : Term) : CodeString :=
  term.key ++ "=" ++ term.value

/-- The escaped query, if no value holds a surrogate. -/
def escape? (query : CodeString) : Option CodeString :=
  ((terms query).mapM Term.escape?).map fun escaped =>
    CodeString.join "&" (escaped.map Term.spell)

end QueryBridge.Query.Raw
