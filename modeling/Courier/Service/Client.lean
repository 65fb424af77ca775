import Courier.Log.Entry
import Courier.Service.Breaker
import Courier.Service.Config
import Courier.Service.Endpoint
import Courier.Service.Exchange
import Courier.Service.Metrics

/-! Clients: they send requests with retries, a circuit breaker, metrics, and a log. -/

namespace Courier.Service

/-- What is fixed when a client is made. -/
structure Client where
  baseUrl : String
  target : String
  config : Config := {}
  defaultHeaders : List Header := []
  deriving Repr

/-- What changes while a client is used. -/
structure State where
  /-- Seconds since the start. -/
  clock : Double := .zero
  breaker : Breaker
  /-- Whether there is an open HTTP client. -/
  connected : Bool := false
  correlation : Option String := none
  metrics : Metrics := {}
  deriving Repr

/-- What an operation does to the world, step by step. -/
inductive Event where
  | created (timeouts : Timeouts)
  | closed
  | called (c : Call)
  | slept (seconds : Double)
  | logged (e : Log.Entry)
  deriving Repr

/-- The answers of the transport, by the number of the call within an operation. -/
abbrev Script := Nat → Reply

/-- The end of an operation: its result, the state behind it, and what happened. -/
structure Ended (ε α : Type) where
  result : Except ε α
  state : State
  events : List Event := []

namespace Client

/-- A client with the slashes at the end of its URL left out; of repeated headers the first place and
the last value remain. -/
def make (baseUrl target : String) (config : Config := {}) (defaultHeaders : List Header := []) :
    Client where
  baseUrl := String.ofList (stripRightBy (· == '/') baseUrl.toList)
  target := target
  config := config
  defaultHeaders := Entries.ofPairs defaultHeaders

def breakerName (c : Client) : String := "openstack_" ++ c.target

def start (c : Client) : State where
  breaker := { failMax := c.config.breakerFailMax, resetTimeout := c.config.breakerResetTimeout }

/-- What is logged when a client is made. -/
def startEntry (c : Client) : Log.Entry :=
  .about .startup .info "Service client initialized"
    [("target", .str c.target), ("base_url", .str c.baseUrl)]

def closedEntry (c : Client) : Log.Entry :=
  .about .shutdown .info "Service client closed" [("target", .str c.target)]

def blockedEntry (c : Client) (method endpoint : String) : Log.Entry :=
  .about .error .error "Circuit breaker open, request blocked"
    [("method", .str method), ("endpoint", .str endpoint), ("target", .str c.target)]

def openedEntry (c : Client) : Log.Entry :=
  .about .error .warning "Circuit breaker opened" [("target", .str c.target)]

def retryEntry (method endpoint : String) (attempt : Nat) (f : Failure) : Log.Entry :=
  .about .retry .warning "Retrying request"
    [("method", .str method), ("endpoint", .str endpoint), ("attempt", .int attempt),
      ("error_type", .str f.name), ("error", .str f.message)]

def completedEntry (method endpoint status : String) (milliseconds : Int) : Log.Entry :=
  .about .requestOut .debug "HTTP request completed"
    [("method", .str method), ("endpoint", .str endpoint), ("status", .str status),
      ("duration_ms", .int milliseconds)]

/-- All headers of a request: the client's, its own, and the correlation id if there is one. -/
def headersFor (c : Client) (correlation : Option String) (own : List Header) : List Header :=
  c.defaultHeaders ++ own ++
    (match correlation with
      | some id => if id.isEmpty then [] else [("X-Correlation-ID", id)]
      | none => [])

/-- Makes an HTTP client if none is open. -/
def connect (c : Client) (s : State) : State × List Event :=
  if s.connected then (s, []) else ({ s with connected := true }, [.created c.config.timeouts])

/-- What the measurements of a request belong to. -/
def label (c : Client) (method endpoint : String) : Label :=
  ⟨c.target, method, normalizeEndpoint endpoint⟩

/-- Makes one call, which takes as long as its reply. -/
def exchange (c : Client) (call : Call) (reply : Reply) (s : State) : State × List Event :=
  let connected := c.connect s
  ({ connected.1 with clock := connected.1.clock.add reply.delay }, connected.2 ++ [.called call])

/-- Counts a retry after the attempt of a number, logs it, and waits. -/
def backOff (c : Client) (method endpoint : String) (attempt : Nat) (f : Failure) (s : State) :
    State × List Event :=
  let wait := c.config.waitAfter attempt
  ({ s with
      clock := s.clock.add wait
      metrics := s.metrics.retry ⟨c.label method endpoint, f.name⟩ },
    [.logged (retryEntry method endpoint attempt f), .slept wait])

/-- Tries a call, up to `left` times more after this one. There were `before` attempts before, and
`call` is the same for all of them. -/
def attempts (c : Client) (endpoint : String) (call : Call) (script : Script) :
    (left before : Nat) → State → Ended ClientError Response
  | left, before, s =>
    let reply := script before
    let called := c.exchange call reply s
    match judge reply with
    | .accept r => ⟨.ok r, called.1, called.2⟩
    | .stop e => ⟨.error e, called.1, called.2⟩
    | .retry f =>
      match left with
      | 0 => ⟨.error (.failed f), called.1, called.2⟩
      | left + 1 =>
        let waited := c.backOff call.method endpoint (before + 1) f called.1
        let later := c.attempts endpoint call script left (before + 1) waited.1
        { later with events := called.2 ++ waited.2 ++ later.events }

/-- The status label of a request that ended. -/
def statusLabel : Except ClientError Response → String
  | .ok r => toString r.status
  | .error (.response status _ _) => toString status
  | .error (.failed f) =>
    match f.kind.status? with
    | some status => toString status
    | none => "error"
  | .error _ => "error"

/-- The failure to record when a request ended, if it ended in one that counts. -/
def recordable : Except ClientError Response → Bool
  | .error (.failed f) => f.kind.isA .httpError
  | _ => false

/-- What the sender of a request sees: a timeout is named by its URL. -/
def present (url : String) : Except ClientError Response → Except ClientError Response
  | .error (.failed f) =>
    if f.kind.isA .timeoutException then .error (.timeout url) else .error (.failed f)
  | r => r

/-- Records a failure with the breaker, and says so if the breaker opens or stays open. -/
def recordFailure (c : Client) (s : State) : State × List Event :=
  let recorded := s.breaker.record (later? 0 s.clock)
  ({ s with breaker := recorded.2 },
    match recorded.1 with
    | .opening | .refused => [.logged c.openedEntry]
    | .counted | .undated => [])

/-- The whole milliseconds of a span of seconds, if there is such a number. -/
def milliseconds (seconds : Double) : Except Failure Int :=
  match seconds.mul (.finite 1000) with
  | .nan => .error (.foreign "ValueError" "cannot convert float NaN to integer")
  | .infinite _ => .error (.foreign "OverflowError" "cannot convert float infinity to integer")
  | .negativeZero => .ok 0
  | .finite q => .ok (roundHalfEven q)

/-- The metrics and the log of a request that began at an instant and has ended. The log is given up
when the time that it took has no whole milliseconds. -/
def complete (c : Client) (method endpoint status : String) (start : Double) (s : State) :
    Ended Failure Unit :=
  let seconds := s.clock.sub start
  let s := { s with metrics := s.metrics.measure ⟨c.label method endpoint, status, seconds⟩ }
  match milliseconds seconds with
  | .ok ms => ⟨.ok (), s, [.logged (completedEntry method endpoint status ms)]⟩
  | .error f => ⟨.error f, s, []⟩

/-- Ends a request that was tried, and that began at an instant. -/
def conclude (c : Client) (r : HttpRequest) (url : String) (start : Double)
    (tried : Ended ClientError Response) : Ended ClientError Response :=
  let recorded :=
    if recordable tried.result then c.recordFailure tried.state else (tried.state, [])
  let completed := c.complete r.method r.endpoint (statusLabel tried.result) start recorded.1
  ⟨match completed.result with
    | .ok () => present url tried.result
    | .error f => .error (.failed f), completed.state,
    tried.events ++ recorded.2 ++ completed.events⟩

/-- The call for a request. -/
def callFor (c : Client) (correlation : Option String) (r : HttpRequest) : Call :=
  .ofRequest (c.baseUrl ++ r.endpoint) (c.headersFor correlation r.headers) r

/-- Sends a request. While the breaker is open nothing is sent. -/
def send (c : Client) (r : HttpRequest) (script : Script) (s : State) :
    Ended ClientError Response :=
  if s.breaker.isOpen then
    ⟨.error (.unavailable c.target), s, [.logged (c.blockedEntry r.method r.endpoint)]⟩
  else
    c.conclude r (c.baseUrl ++ r.endpoint) s.clock
      (c.attempts r.endpoint (c.callFor s.correlation r) script (c.config.attempts - 1) 0 s)

/-- Closes the HTTP client, if one is open. -/
def close (c : Client) (s : State) : State × List Event :=
  if s.connected then ({ s with connected := false }, [.closed, .logged c.closedEntry]) else (s, [])

end Client

end Courier.Service
