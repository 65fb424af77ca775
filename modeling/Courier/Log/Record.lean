import Courier.Log.Entry

/-! Records: an entry together with everything its line is stamped with, in the order of the line. -/

namespace Courier.Log

/-- What surrounds an entry when it is logged. -/
structure Surroundings where
  correlation : Option String := none
  /-- Fields of the logger itself. -/
  bound : Entries String Given := []
  /-- Fields of the running task. -/
  context : Entries String Given := []
  timestamp : String
  deriving Repr

/-- Puts the correlation id, if there is one, unless the caller has given one. -/
def stampCorrelation (correlation : Option String) (es : Entries String Given) :
    Entries String Given :=
  match correlation with
  | none => es
  | some c => if c.isEmpty then es else es.putNew "correlation_id" (.value (.str c))

/-- Puts the name of the event type in the place of the type. -/
def stampType (es : Entries String Given) : Entries String Given :=
  match es.get? "event_type" with
  | some (.type t) => es.put "event_type" (.value (.str t.name))
  | _ => es

/-- Puts the event, unless there is none. -/
def putEvent (event : Json) (es : Entries String Given) : Entries String Given :=
  if event.isNull then es else es.put "event" (.value event)

/-- What an entry is said with: its own fields over those of the logger, and the task's fields where
neither has one. -/
def gather (s : Surroundings) (e : Entry) : Entries String Given :=
  s.context.foldl (fun es p => es.putNew p.1 p.2) (putEvent e.event (s.bound.update e.fields))

/-- The fields of the line for an entry. A field already there keeps its place; the service, the time
and the level replace its value, the task's fields and the correlation id do not. -/
def record (service : String) (s : Surroundings) (e : Entry) : Entries String Json :=
  let es := (gather s e).put "service" (.value (.str service))
  let es := stampType (stampCorrelation s.correlation es)
  let es := es.put "timestamp" (.value (.str s.timestamp))
  let es := es.put "level" (.value (.str e.level.name))
  (es.remove "exc_info").map fun e => (e.1, e.2.json)

end Courier.Log
