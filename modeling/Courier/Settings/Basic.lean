import Courier.Log.Logger
import Courier.Number.Shortest
import Courier.Settings.EnvFile
import Courier.Shape.Model

/-! The settings of clients and logs, and the sources that they come from. -/

namespace Courier

structure Settings where
  serviceName : String
  logLevel : String
  logJson : Bool
  storageUrl : String
  queuesUrl : String
  clientId : String
  timeout : Double
  maxRetries : Int
  deriving DecidableEq, Repr

namespace Settings

/-- The name of each field in every source. -/
def fieldNames : List String :=
  ["SERVICE_NAME", "LOG_LEVEL", "LOG_JSON_FORMAT", "STORAGE_URL", "QUEUES_URL", "CLIENT_ID",
    "HTTP_CLIENT_TIMEOUT", "HTTP_CLIENT_MAX_RETRIES"]

def defaults : Settings where
  serviceName := "openstack_adapters"
  logLevel := "INFO"
  logJson := true
  storageUrl := "http://localhost:8080/v1/AUTH_test"
  queuesUrl := "http://localhost:8888/v1"
  clientId := "3381af92-2b9e-11e3-b191-71861300734c"
  timeout := .finite 30
  maxRetries := 3

/-- Where settings come from: the caller's own values, the environment, and the text of the settings
file, if there is one. -/
structure Sources where
  given : Entries String Json := []
  environment : Entries String String := []
  file : Option String := none
  deriving Repr

namespace Sources

def fileValues (s : Sources) : Entries String (Option String) :=
  match s.file with
  | some t => EnvFile.values s.environment t
  | none => []

/-- The value that wins for a field: the caller's, then the environment's, then the file's. -/
def winner? (s : Sources) (name : String) : Option Json :=
  match s.given.get? name with
  | some v => some v
  | none =>
    match s.environment.get? name with
    | some t => some (.str t)
    | none => ((s.fileValues.get? name).join).map Json.str

/-- The names in the file that are no fields, unless their value is empty. -/
def fileExtras (s : Sources) : List String :=
  s.fileValues.filterMap fun (k, v) =>
    if fieldNames.contains k || (v.getD "").isEmpty then none else some k

/-- All names that are no fields: those of the file, then the caller's. The environment may hold any
names. -/
def extras (s : Sources) : List String :=
  let givenExtras := (s.given.map (·.1)).filter (!fieldNames.contains ·)
  s.fileExtras ++ givenExtras.filter (!s.fileExtras.contains ·)

def field {α : Type} (s : Sources) (name : String) (absent : α) (check : Json → Checked α) :
    Checked α :=
  match s.winner? name with
  | some v => .under (.field name) (check v)
  | none => .ok absent

end Sources

/-- The fields, each by its winning source. -/
def checkFields (s : Sources) : Checked Settings :=
  ((((((((s.field "SERVICE_NAME" defaults.serviceName checkText).map
    (fun a b c d e f g h => Settings.mk a b c d e f g h)).and
    (s.field "LOG_LEVEL" defaults.logLevel checkText)).and
    (s.field "LOG_JSON_FORMAT" defaults.logJson checkBool)).and
    (s.field "STORAGE_URL" defaults.storageUrl checkText)).and
    (s.field "QUEUES_URL" defaults.queuesUrl checkText)).and
    (s.field "CLIENT_ID" defaults.clientId checkText)).and
    (s.field "HTTP_CLIENT_TIMEOUT" defaults.timeout checkFloat)).and
    (s.field "HTTP_CLIENT_MAX_RETRIES" defaults.maxRetries checkInt)

/-- A fault for each name that is no field. -/
def checkExtras (names : List String) : Checked Unit :=
  if names.isEmpty then .ok ()
  else .faulty (names.map fun n => ⟨[.field n], .extraForbidden⟩)

/-- The settings that the sources give. -/
def load (s : Sources) : Checked Settings :=
  ((checkFields s).map fun v _ => v).and (checkExtras s.extras)

def title : String := "Settings"

def toEntries (s : Settings) : Entries String Json :=
  [("SERVICE_NAME", .str s.serviceName), ("LOG_LEVEL", .str s.logLevel),
    ("LOG_JSON_FORMAT", .bool s.logJson), ("STORAGE_URL", .str s.storageUrl),
    ("QUEUES_URL", .str s.queuesUrl), ("CLIENT_ID", .str s.clientId),
    ("HTTP_CLIENT_TIMEOUT", .float s.timeout), ("HTTP_CLIENT_MAX_RETRIES", .int s.maxRetries)]

/-- The logger that the settings ask for. -/
def logger (s : Settings) : Log.Logger := .configure s.serviceName s.logLevel s.logJson

end Settings

end Courier
