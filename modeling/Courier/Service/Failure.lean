import Courier.Text.Parameters
import Courier.Text.Quoted

/-! What goes wrong between a client and its service. -/

namespace Courier.Service

/-- The classes of failures. Those of the transport are a tree below `httpError`. -/
inductive FailureClass where
  | httpError
  /-- An answer whose status stands for a failure. -/
  | httpStatusError (status : Int)
  | requestError
  | decodingError
  | tooManyRedirects
  | transportError
  | proxyError
  | unsupportedProtocol
  | protocolError
  | localProtocolError
  | remoteProtocolError
  | timeoutException
  | connectTimeout
  | readTimeout
  | writeTimeout
  | poolTimeout
  | networkError
  | connectError
  | readError
  | writeError
  | closeError
  /-- A class outside the tree. -/
  | foreign (name : String)
  deriving DecidableEq, Repr

namespace FailureClass

/-- The classes of the tree, as the transport raises them. -/
def all : List FailureClass :=
  [httpError, httpStatusError 500, requestError, decodingError, tooManyRedirects, transportError,
    proxyError, unsupportedProtocol, protocolError, localProtocolError, remoteProtocolError,
    timeoutException, connectTimeout, readTimeout, writeTimeout, poolTimeout, networkError,
    connectError, readError, writeError, closeError]

def name : FailureClass → String
  | httpError => "HTTPError"
  | httpStatusError _ => "HTTPStatusError"
  | requestError => "RequestError"
  | decodingError => "DecodingError"
  | tooManyRedirects => "TooManyRedirects"
  | transportError => "TransportError"
  | proxyError => "ProxyError"
  | unsupportedProtocol => "UnsupportedProtocol"
  | protocolError => "ProtocolError"
  | localProtocolError => "LocalProtocolError"
  | remoteProtocolError => "RemoteProtocolError"
  | timeoutException => "TimeoutException"
  | connectTimeout => "ConnectTimeout"
  | readTimeout => "ReadTimeout"
  | writeTimeout => "WriteTimeout"
  | poolTimeout => "PoolTimeout"
  | networkError => "NetworkError"
  | connectError => "ConnectError"
  | readError => "ReadError"
  | writeError => "WriteError"
  | closeError => "CloseError"
  | foreign name => name

/-- The class that a class is directly a kind of, within the tree. -/
def parent? : FailureClass → Option FailureClass
  | httpError | foreign _ => none
  | httpStatusError _ | requestError => some httpError
  | decodingError | tooManyRedirects | transportError => some requestError
  | proxyError | unsupportedProtocol | protocolError | timeoutException | networkError =>
    some transportError
  | localProtocolError | remoteProtocolError => some protocolError
  | connectTimeout | readTimeout | writeTimeout | poolTimeout => some timeoutException
  | connectError | readError | writeError | closeError => some networkError

/-- A class and some classes above it, the nearest first: `levels` of them. -/
def lineage : (levels : Nat) → FailureClass → List FailureClass
  | 0, c => [c]
  | levels + 1, c =>
    match c.parent? with
    | some p => c :: lineage levels p
    | none => [c]

/-- Whether a class is another one or a kind of it. The tree has four levels below its root. -/
def isA (c d : FailureClass) : Bool := (lineage 4 c).contains d

def ofName (name : String) : FailureClass := (all.find? (·.name == name)).getD (.foreign name)

/-- The status of the answer that a failure stands for. -/
def status? : FailureClass → Option Int
  | httpStatusError status => some status
  | _ => none

/-- Whether another attempt may help. -/
def retryable (c : FailureClass) : Bool :=
  c.isA .timeoutException || c.isA .networkError || c.status?.isSome

end FailureClass

/-- A failure: its class and its message. -/
structure Failure where
  kind : FailureClass
  message : String
  deriving DecidableEq, Repr

namespace Failure

def name (f : Failure) : String := f.kind.name

/-- A failure of a class, raised with a text. Key errors quote theirs. -/
def raised (name text : String) : Failure :=
  ⟨.ofName name, if name == "KeyError" then quoted text else text⟩

def foreign (name message : String) : Failure := ⟨.foreign name, message⟩

end Failure

/-- Trouble with a text as a failure, which is always one outside the tree. -/
def Failure.ofTrouble (t : Trouble) : Failure := .foreign t.name t.message

/-- Why a request to a service came to nothing. -/
inductive ClientError where
  | unavailable (target : String)
  | timeout (url : String)
  | response (status : Int) (detail body : String)
  | failed (failure : Failure)
  deriving DecidableEq, Repr

namespace ClientError

/-- The class of an error. -/
def name : ClientError → String
  | unavailable _ => "ServiceUnavailableError"
  | timeout _ => "ServiceTimeoutError"
  | response _ _ _ => "ServiceResponseError"
  | failed f => f.name

def message : ClientError → String
  | unavailable t => "Service " ++ t ++ " is unavailable (circuit breaker open)"
  | timeout u => "Request to " ++ u ++ " timed out"
  | response s d _ => "HTTP " ++ toString s ++ ": " ++ d
  | failed f => f.message

end ClientError

end Courier.Service
