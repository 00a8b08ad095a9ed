import QueryBridge.Http.Message

/-!
# The values under a header name

Header names are compared without regard to case, so a request can have several values
under one name.
-/

namespace QueryBridge.Http.Headers

/-- All values under a name, in order. -/
def values (name : String) (headers : Headers) : List CodeString :=
  (headers.filter fun header => foldName header.1 == foldName name).map Prod.snd

theorem values_cons_of_eq {name : String} {header : String × CodeString} {headers : Headers}
    (h : foldName header.1 = foldName name) :
    values name (header :: headers) = header.2 :: values name headers := by
  simp [values, h]

theorem values_cons_of_ne {name : String} {header : String × CodeString} {headers : Headers}
    (h : foldName header.1 ≠ foldName name) :
    values name (header :: headers) = values name headers := by
  simp [values, h]

end QueryBridge.Http.Headers
