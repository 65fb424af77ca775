import Courier.Log.Entry
import Courier.Metadata.Choice

/-! What the library publishes: its names, its enumerations, and how its errors are related. -/

namespace Courier.Catalog

inductive ErrorClass where
  | adapter
  | invalidArgument
  | malformedResponse
  | serviceClient
  | serviceUnavailable
  | serviceTimeout
  | serviceResponse
  deriving DecidableEq, Repr

namespace ErrorClass

def all : List ErrorClass :=
  [adapter, invalidArgument, malformedResponse, serviceClient, serviceUnavailable, serviceTimeout,
    serviceResponse]

def name : ErrorClass → String
  | adapter => "AdapterError"
  | invalidArgument => "InvalidArgumentError"
  | malformedResponse => "MalformedResponseError"
  | serviceClient => "ServiceClientError"
  | serviceUnavailable => "ServiceUnavailableError"
  | serviceTimeout => "ServiceTimeoutError"
  | serviceResponse => "ServiceResponseError"

/-- What every error is. -/
def roots : List String := ["Exception", "BaseException", "object"]

/-- A class and all that it is a kind of, the nearest first. -/
def bases : ErrorClass → List String
  | invalidArgument => invalidArgument.name :: adapter.name :: "ValueError" :: roots
  | malformedResponse => malformedResponse.name :: adapter.name :: roots
  | serviceUnavailable => serviceUnavailable.name :: serviceClient.name :: roots
  | serviceTimeout => serviceTimeout.name :: serviceClient.name :: roots
  | serviceResponse => serviceResponse.name :: serviceClient.name :: roots
  | c => c.name :: roots

def named? (name : String) : Option ErrorClass := all.find? (·.name == name)

end ErrorClass

/-- An enumeration: its constants with their values. -/
abbrev Members := List (String × String)

def enumerations : List (String × Members) := [
  ("MetadataScope", Metadata.Scope.all.map fun s => (s.constant, s.stem)),
  ("BindMode", Metadata.Mode.all.map fun m => (m.constant, m.value)),
  ("LogEventType", Log.EventType.all.map fun t => (t.constant, t.name))]

def members (enumeration : String) : Members :=
  ((enumerations.find? (·.1 == enumeration)).map (·.2)).getD []

/-- The constant of a value; otherwise why the value has none. -/
def memberOf (enumeration : String) (value : Json) : Except String String :=
  match (members enumeration).find? fun m => Json.same (.str m.2) value with
  | some m => .ok m.1
  | none => .error (value.literal ++ " is not a valid " ++ enumeration)

/-- Everything published, in order. -/
def publicNames : List String :=
  ["AdapterError", "BIND_ACCOUNT_METADATA", "BIND_CONTAINER_METADATA", "BIND_OBJECT_METADATA",
    "BIND_REMOVE_ACCOUNT_METADATA", "BIND_REMOVE_CONTAINER_METADATA",
    "BIND_REMOVE_OBJECT_METADATA", "BindMode", "HttpRequest", "InvalidArgumentError",
    "JsonDecoder", "Link", "LogEventType", "MalformedResponseError", "Message",
    "MessageIdsParser", "MessageStream", "MessageStreamParser", "MessageWithHref",
    "MessagesCreated", "MetadataHeaderBinder", "MetadataScope", "PaginatedMessages",
    "PydanticJsonDecoder", "configure_logging", "configure_logging_from_settings", "get_logger",
    "get_metadata_binder", "parse_message_id"]

end Courier.Catalog
