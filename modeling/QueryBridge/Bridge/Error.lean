import QueryBridge.Count
import QueryBridge.Http.Message
import QueryBridge.Template

/-!
# Errors of the bridge

Whatever can go wrong with a request is reported to the caller as one of these causes.
Their texts can be shown; they hold no credentials.
-/

namespace QueryBridge.Bridge

/-- Why a body is not what an operation expects. -/
inductive FormatError where
  | invalidJson (path : String)
  /-- The document is no object. -/
  | notObject (operation : String)
  | missingCount
  | count (error : Count.Error)
  | missingRecord
  | missingRecords
  | recordNotObject (index : Nat)
deriving Repr

def FormatError.message : FormatError → String
  | .invalidJson path =>
      "The REST Service returned a response from " ++ path ++ " that is not valid JSON."
  | .notObject operation =>
      "Unexpected " ++ operation ++
        " payload from the REST Service: expected a JSON object."
  | .missingCount => "The REST Service count response is missing the 'count' field."
  | .count error => error.message
  | .missingRecord => "The REST Service retrieve response is missing the 'record' object."
  | .missingRecords => "The REST Service search response is missing the 'records' array."
  | .recordNotObject index =>
      "The REST Service search response contains a non-object record at index " ++
        toString index ++ "."

/-- Why a request cannot be made. -/
inductive RequestError where
  | unbound (parameter : Template.Unbound)
  | missingId
  | emptyId
deriving Repr, DecidableEq

def RequestError.message : RequestError → String
  | .unbound parameter => parameter.message
  | .missingId => "Retrieve requests must include an 'id=<value>' term in the query."
  | .emptyId => "Retrieve requests must include a non-empty record id."

inductive Error where
  | notReady
  | missingProperties (names : List String)
  | invalidStructure (name : String)
  | request (error : RequestError)
  | noConnection
  /-- The service refused the credentials when they were checked. -/
  | refused
  /-- The service refused the credentials during an operation. -/
  | rejected
  | format (error : FormatError)
  | service (status : Nat) (path : String)
deriving Repr

def adapterName : String := "Rest Template Bridge"

namespace Error

/-- The name of the cause, as the command line shows it. -/
def label : Error → String
  | .notReady => "BridgeError"
  | .missingProperties _ => "ConfigurationError"
  | .invalidStructure _ => "InvalidStructureError"
  | .request _ => "InvalidRequestError"
  | .noConnection => "BridgeConnectionError"
  | .refused | .rejected => "UnauthorizedError"
  | .format _ => "FormatError"
  | .service .. => "RemoteServiceError"

def message : Error → String
  | .notReady => adapterName ++ " has not been initialized."
  | .missingProperties names =>
      "Missing required properties: " ++ String.intercalate ", " names ++ "."
  | .invalidStructure name =>
      "Invalid Structure: '" ++ name ++ "' is not a valid structure"
  | .request error => error.message
  | .noConnection => "Unable to make a connection to the REST Service"
  | .refused =>
      "Unauthorized: The inputted Username/Password combination is not valid."
  | .rejected => "Unauthorized: the REST Service rejected the configured credentials."
  | .format error => error.message
  | .service status path =>
      "The REST Service returned HTTP " ++ toString status ++ " for " ++ path ++ "."

end Error

/-- How an operation can fail: with an error that is reported, because no request could be
made of the endpoint, the headers or the settings, or because a body nests too many arrays
and objects. -/
inductive Failure where
  | reported (error : Error)
  | invalidUrl (error : Url.Error)
  | headerEncoding
  | noAttempts
  | tooDeep
deriving Repr

namespace Failure

def message : Failure → String
  | .reported error => error.message
  | .invalidUrl error => error.message
  | .headerEncoding => "A header cannot be encoded."
  | .noAttempts => "retry_attempts must be at least 1."
  | .tooDeep => "A value nests too many arrays and objects."

end Failure

end QueryBridge.Bridge
