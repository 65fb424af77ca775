import Courier.Json.Basic

/-! Log entries: what is said about an event, before a logger writes it down. -/

namespace Courier.Log

inductive Level where
  | debug
  | info
  | warning
  | error
  | critical
  deriving DecidableEq, Repr

namespace Level

def name : Level → String
  | debug => "debug"
  | info => "info"
  | warning => "warning"
  | error => "error"
  | critical => "critical"

def rank : Level → Nat
  | debug => 10
  | info => 20
  | warning => 30
  | error => 40
  | critical => 50

/-- The level that a logging method writes at. -/
def ofMethod? (method : String) : Option Level :=
  match method with
  | "debug" => some debug
  | "info" | "msg" => some info
  | "warning" | "warn" => some warning
  | "error" | "exception" => some error
  | "critical" | "fatal" => some critical
  | _ => none

end Level

/-- What the entries of the library are about. -/
inductive EventType where
  | requestOut
  | retry
  | metadataBind
  | messagesParse
  | error
  | startup
  | shutdown
  deriving DecidableEq, Repr

namespace EventType

def all : List EventType :=
  [requestOut, retry, metadataBind, messagesParse, error, startup, shutdown]

/-- The name that stands in log lines. -/
def name : EventType → String
  | requestOut => "request_out"
  | retry => "retry"
  | metadataBind => "metadata_bind"
  | messagesParse => "messages_parse"
  | error => "error"
  | startup => "startup"
  | shutdown => "shutdown"

/-- The name of the constant. -/
def constant : EventType → String
  | requestOut => "REQUEST_OUT"
  | retry => "RETRY"
  | metadataBind => "METADATA_BIND"
  | messagesParse => "MESSAGES_PARSE"
  | error => "ERROR"
  | startup => "STARTUP"
  | shutdown => "SHUTDOWN"

def named? (name : String) : Option EventType := all.find? (·.name == name)

end EventType

/-- What a field can be given: a value, or an event type as such. -/
inductive Given where
  | value (v : Json)
  | type (t : EventType)
  deriving Repr

/-- What a line shows of it. An event type is a text there, its name. -/
def Given.json : Given → Json
  | value v => v
  | type t => .str t.name

/-- Fields that are all given as values. -/
def Given.values (es : Entries String Json) : Entries String Given :=
  es.map fun e => (e.1, .value e.2)

instance : Coe (Entries String Json) (Entries String Given) := ⟨Given.values⟩

/-- An event with the fields that describe it. -/
structure Entry where
  level : Level
  event : Json
  fields : Entries String Given
  deriving Repr

/-- An entry of the library: its type stands before its other fields. -/
def Entry.about (type : EventType) (level : Level) (event : String)
    (fields : Entries String Json) : Entry :=
  ⟨level, .str event, ("event_type", .type type) :: Given.values fields⟩

end Courier.Log
