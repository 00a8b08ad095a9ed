import QueryBridge.Authorization
import QueryBridge.Url.Reference

/-!
# Requests, replies and faults

Header names are compared without regard to case.  A reply is what a transport gives
for one request: an answer of the service, or a fault.  The faults of the transport
itself are told apart from those that are found in an answer.
-/

namespace QueryBridge.Http

/-! ## Headers -/

abbrev Headers := List (String × CodeString)

namespace Headers

def foldName (name : String) : String :=
  String.ofList (name.toList.map Char.toLower)

def erase (name : String) (headers : Headers) : Headers :=
  headers.filter fun header => foldName header.1 != foldName name

/-- The values under a name, with commas between them. -/
def joined? (name : String) (headers : Headers) : Option CodeString :=
  match headers.filter fun header => foldName header.1 == foldName name with
  | [] => none
  | found => some (CodeString.join ", " (found.map Prod.snd))

/-- The given headers replace all of the same names. -/
def update (others headers : Headers) : Headers :=
  (headers.filter fun header =>
    !others.any fun other => foldName other.1 == foldName header.1) ++ others

/-- Sets a header in the place of the first of its name, or at the end. -/
def set (name : String) (value : CodeString) : Headers → Headers
  | [] => [(name, value)]
  | header :: headers =>
      if foldName header.1 = foldName name then (name, value) :: erase name headers
      else header :: set name value headers

def isAscii (string : CodeString) : Bool :=
  string.codes.all fun code => code < 0x80

/-- Only ASCII text can be sent as a header. -/
def areEncodable (headers : Headers) : Bool :=
  headers.all fun header => isAscii header.1 && isAscii header.2

end Headers

/-! ## Faults -/

/-- The kinds of faults, by their names in logs. -/
inductive FaultKind where
  | transportError | timeoutException | connectTimeout | readTimeout | writeTimeout
  | poolTimeout | networkError | connectError | readError | writeError | closeError
  | protocolError | localProtocolError | remoteProtocolError | proxyError
  | unsupportedProtocol | decodingError | tooManyRedirects | requestError
deriving Repr, DecidableEq

namespace FaultKind

def name : FaultKind → String
  | transportError => "TransportError"
  | timeoutException => "TimeoutException"
  | connectTimeout => "ConnectTimeout"
  | readTimeout => "ReadTimeout"
  | writeTimeout => "WriteTimeout"
  | poolTimeout => "PoolTimeout"
  | networkError => "NetworkError"
  | connectError => "ConnectError"
  | readError => "ReadError"
  | writeError => "WriteError"
  | closeError => "CloseError"
  | protocolError => "ProtocolError"
  | localProtocolError => "LocalProtocolError"
  | remoteProtocolError => "RemoteProtocolError"
  | proxyError => "ProxyError"
  | unsupportedProtocol => "UnsupportedProtocol"
  | decodingError => "DecodingError"
  | tooManyRedirects => "TooManyRedirects"
  | requestError => "RequestError"

def all : List FaultKind :=
  [transportError, timeoutException, connectTimeout, readTimeout, writeTimeout, poolTimeout,
    networkError, connectError, readError, writeError, closeError, protocolError,
    localProtocolError, remoteProtocolError, proxyError, unsupportedProtocol, decodingError,
    tooManyRedirects, requestError]

def ofName? (name : String) : Option FaultKind :=
  all.find? fun kind => kind.name == name

/-- Whether the transport failed, so that the request may be tried again. -/
def isTransport : FaultKind → Bool
  | decodingError | tooManyRedirects | requestError => false
  | _ => true

end FaultKind

structure Fault where
  kind : FaultKind
  message : String
deriving Repr, DecidableEq

/-- The fault as logs show it. -/
def Fault.text (fault : Fault) : String :=
  fault.kind.name ++ ": " ++ fault.message

/-! ## Requests and replies -/

/-- A request for the content of a URL. -/
structure Request where
  url : Url
  headers : Headers
deriving Repr, DecidableEq

structure Answer where
  status : Nat
  headers : Headers
  body : List UInt8
deriving Repr, DecidableEq

inductive Reply where
  | answer (answer : Answer)
  | fault (fault : Fault)
deriving Repr, DecidableEq

/-- The reply of a script that has come to its end. -/
def Reply.blank : Reply :=
  .answer ⟨200, [], []⟩

/-- The final answer to a request, with the URL that gave it. -/
structure Response where
  status : Nat
  body : List UInt8
  url : Url
deriving Repr, DecidableEq

/-- Why a request has no response. -/
inductive Failure where
  | fault (fault : Fault)
  | invalidUrl (error : Url.Error)
  /-- A header is not ASCII. -/
  | headerEncoding
deriving Repr, DecidableEq

end QueryBridge.Http
