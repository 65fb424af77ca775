import Courier.Queue.Link
import Courier.Url.Query

/-! Queue messages and pages of them. -/

namespace Courier

/-- A message: its id, the seconds it lives, its text, and its age in seconds. -/
structure Message where
  id : String
  ttl : Int
  body : String
  age : Int
  deriving DecidableEq, Repr

namespace Message

def check (v : Json) : Checked Message :=
  (Checked.entries v).bind fun es =>
    ((((Checked.required es "id" checkText).map fun i t b a => Message.mk i t b a).and
      (.required es "ttl" checkInt)).and (.required es "body" checkText)).and
      (.required es "age" checkInt)

def toJson (m : Message) : Json :=
  .obj [("id", .str m.id), ("ttl", .int m.ttl), ("body", .str m.body), ("age", .int m.age)]

instance : Model Message := ⟨"Message", check, toJson⟩

end Message

/-- One page of messages, and the links to other pages. -/
structure MessageStream where
  messages : List Message
  links : LinkSet
  deriving DecidableEq, Repr

namespace MessageStream

def empty : MessageStream := ⟨[], ⟨[]⟩⟩

def check (v : Json) : Checked MessageStream :=
  (Checked.entries v).bind fun es =>
    ((Checked.optional es "messages" [] (.listOf .tupleType Message.check)).map
      fun ms ls => MessageStream.mk ms (.ofList ls)).and
      (.optional es "links" [] (.listOf .frozenSetType Link.check))

def toJson (s : MessageStream) : Json :=
  .obj [("messages", .arr (s.messages.map Message.toJson)),
    ("links", .arr (s.links.toList.map Link.toJson))]

instance : Model MessageStream := ⟨"MessageStream", check, toJson⟩

/-- The marker that the link to the next page carries. -/
def nextMarker (s : MessageStream) : Except Url.Fault (Option String) :=
  match s.links.toList.find? (·.relation == "next") with
  | none => .ok none
  | some l => Url.parameter? l.href "marker"

end MessageStream

end Courier
