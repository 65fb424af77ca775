import Courier.Json.Printer
import Courier.Log.Console
import Courier.Log.Record
import Courier.Log.Template

/-! Loggers: which entries they write, and how. -/

namespace Courier.Log

inductive Style where
  | json
  | console
  deriving DecidableEq, Repr

/-- A logger writes the entries of at least a rank. -/
structure Logger where
  service : String
  threshold : Nat
  style : Style
  deriving DecidableEq, Repr

/-- The capital form of a letter, as far as it can matter in the name of a level. -/
def capital (c : Char) : Char :=
  if c = 'ı' then 'I' else if c = 'ſ' then 'S' else c.toUpper

/-- The least rank to write by the name of a level, in any case. An unknown name means `info`. -/
def thresholdOf (name : String) : Nat :=
  match name.map capital with
  | "CRITICAL" | "FATAL" => 50
  | "ERROR" => 40
  | "WARNING" | "WARN" => 30
  | "DEBUG" => 10
  | "NOTSET" => 0
  | _ => 20

/-- Why a line cannot be written. -/
inductive Failure where
  | template (fault : Template.Fault)
  | notText (message : String)
  deriving DecidableEq, Repr

def Failure.name : Failure → String
  | template f => f.name
  | notText _ => "TypeError"

def Failure.message : Failure → String
  | template f => f.message
  | notText m => m

/-- A call of a logging method, with the arguments to fill into its text. -/
structure Call where
  surroundings : Surroundings
  entry : Entry
  args : List Json := []
  deriving Repr

namespace Logger

def configure (service : String) (level : String := "INFO") (json : Bool := true) : Logger :=
  ⟨service, thresholdOf level, if json then .json else .console⟩

def writes (g : Logger) (l : Level) : Bool := g.threshold ≤ l.rank

/-- The line for an entry, whatever its level. -/
def render (g : Logger) (s : Surroundings) (e : Entry) : Except Failure String :=
  let es := record g.service s e
  match g.style with
  | .json => .ok (Json.obj es).text
  | .console =>
    match Console.line es with
    | .ok t => .ok t
    | .error m => .error (.notText m)

/-- The line written for an entry, if one is. -/
def line (g : Logger) (s : Surroundings) (e : Entry) : Except Failure (Option String) :=
  if g.writes e.level then (g.render s e).map some else .ok none

/-- The line written for an event text with arguments to fill in. -/
def lineWith (g : Logger) (s : Surroundings) (e : Entry) (args : List Json) :
    Except Failure (Option String) :=
  if args.isEmpty || !g.writes e.level then g.line s e
  else
    match Template.render e.event.display args with
    | .ok t => g.line s { e with event := .str t }
    | .error f => .error (.template f)

/-- What calls write, one call after another: a line or nothing for each, up to the first that fails. -/
def run (g : Logger) (calls : List Call) : Except Failure (List (Option String)) :=
  calls.mapM fun c => g.lineWith c.surroundings c.entry c.args

/-- The lines written for entries, one after another. -/
def lines (g : Logger) (s : Surroundings) (es : List Entry) : List String :=
  es.filterMap fun e =>
    match g.line s e with
    | .ok l => l
    | .error _ => none

end Logger

end Courier.Log
