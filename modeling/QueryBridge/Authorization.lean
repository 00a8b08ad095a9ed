import QueryBridge.Fields
import QueryBridge.Text.Base64
import QueryBridge.Text.CodeString
import QueryBridge.Text.Quoted
import QueryBridge.Text.Utf8

/-!
# Authorization

A client presents either a user name with a password, in the Basic scheme, or a
bearer token.  The Basic scheme encodes its credentials, so they must be texts.  The secrets of
an authorization are the values that must not appear in a log.
-/

namespace QueryBridge

/-- Credentials as they are given. -/
inductive Credentials where
  | basic (username password : CodeString)
  | bearer (token : CodeString)
deriving Repr, DecidableEq

inductive Authorization where
  | basic (username password : String)
  | bearer (token : CodeString)
deriving Repr, DecidableEq

/-- The authorization with the credentials, if these can be encoded. -/
def Credentials.authorization? : Credentials → Option Authorization
  | .basic username password => do return .basic (← username.text?) (← password.text?)
  | .bearer token => some (.bearer token)

namespace Authorization

def headerName : String := "Authorization"

/-- The text after `Basic `: the credentials in UTF-8, in base 64. -/
def basicToken (username password : String) : String :=
  let credentials := username.toList ++ ':' :: password.toList
  String.ofList (Text.Base64.encode (Text.Utf8.encode credentials))

/-- The value of the header. -/
def header : Authorization → CodeString
  | .basic username password => .text ("Basic " ++ basicToken username password)
  | .bearer token => "Bearer " ++ token

def secrets : Authorization → List CodeString
  | .basic username password => [password, basicToken username password]
  | .bearer token => [token]

/-- Sets the header among others, whose names are told apart by case. -/
def apply (authorization : Authorization) (headers : Fields CodeString) : Fields CodeString :=
  Fields.insert headerName authorization.header headers

/-- A description that names no secret. -/
def describe : Authorization → String
  | .basic username _ => "BasicAuth(username=" ++ Text.quoted username ++ ")"
  | .bearer _ => "BearerAuth()"

end Authorization

end QueryBridge
