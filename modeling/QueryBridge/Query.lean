import QueryBridge.Text.Blank
import QueryBridge.Text.Case
import QueryBridge.Text.Percent
import QueryBridge.Text.Split

/-!
# Queries

A query is a sequence of terms `key=value` with `&` between them.  Only the first
`=` of a term separates, a term without one has an empty value, and empty terms
do not count.

`find?` looks a key up regardless of case and surrounding blanks.  `escape`
writes the terms in a form that can be appended to a URL.
-/

namespace QueryBridge.Query

/-- A term of a query. -/
structure Term where
  key : String
  value : String
deriving Repr, DecidableEq

def Term.ofChars (text : List Char) : Term :=
  let parts := Text.cutAt '=' text
  ⟨String.ofList parts.1, String.ofList parts.2⟩

/-- The terms of a query in order. -/
def terms (query : String) : List Term :=
  ((Text.splitOn '&' query.toList).filter (!·.isEmpty)).map Term.ofChars

/-! ## Looking a key up -/

/-- The form under which keys are compared. -/
def foldKey (key : String) : String :=
  Text.lower (Text.trim key)

/-- The value of the first term whose key matches. -/
def find? (query key : String) : Option String :=
  ((terms query).find? fun term => foldKey term.key == foldKey key).map Term.value

/-! ## Escaping -/

def escapeKey (key : String) : String :=
  String.ofList ((Text.trimChars key.toList).map fun c => if c = ' ' then '+' else c)

def Term.escape (term : Term) : String :=
  escapeKey term.key ++ "=" ++ Text.Percent.encode term.value

/-- Keys are trimmed and their spaces become `+`; values are percent-encoded. -/
def escape (query : String) : String :=
  String.intercalate "&" ((terms query).map Term.escape)

end QueryBridge.Query
