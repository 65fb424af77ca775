import Courier.Queue.Message

/-! The bodies that the queue service answers with. -/

namespace Courier

/-- A message as it is listed, named by its full address. -/
structure ListedMessage where
  href : String
  ttl : Int
  body : String
  age : Int
  deriving DecidableEq, Repr

namespace ListedMessage

def check (v : Json) : Checked ListedMessage :=
  (Checked.entries v).bind fun es =>
    ((((Checked.required es "href" checkText).map fun h t b a => ListedMessage.mk h t b a).and
      (.required es "ttl" checkInt)).and (.required es "body" checkText)).and
      (.required es "age" checkInt)

def toJson (m : ListedMessage) : Json :=
  .obj [("href", .str m.href), ("ttl", .int m.ttl), ("body", .str m.body), ("age", .int m.age)]

instance : Model ListedMessage := ⟨"MessageWithHref", check, toJson⟩

end ListedMessage

/-- A listing of messages, with its links in order. -/
structure Listing where
  messages : List ListedMessage
  links : List Link
  deriving DecidableEq, Repr

namespace Listing

def check (v : Json) : Checked Listing :=
  (Checked.entries v).bind fun es =>
    ((Checked.optional es "messages" [] (.listOf .tupleType ListedMessage.check)).map
      fun ms ls => Listing.mk ms ls).and
      (.optional es "links" [] (.listOf .tupleType Link.check))

def toJson (l : Listing) : Json :=
  .obj [("messages", .arr (l.messages.map ListedMessage.toJson)),
    ("links", .arr (l.links.map Link.toJson))]

instance : Model Listing := ⟨"PaginatedMessages", check, toJson⟩

end Listing

/-- What the service answers when messages were posted: their addresses, and whether some were
refused. -/
structure Posted where
  resources : List String
  partly : Bool
  deriving DecidableEq, Repr

namespace Posted

def check (v : Json) : Checked Posted :=
  (Checked.entries v).bind fun es =>
    ((Checked.optional es "resources" [] (.listOf .tupleType checkText)).map
      fun rs p => Posted.mk rs p).and
      (.optional es "partial" false checkBool)

def toJson (p : Posted) : Json :=
  .obj [("resources", .arr (p.resources.map Json.str)), ("partial", .bool p.partly)]

instance : Model Posted := ⟨"MessagesCreated", check, toJson⟩

end Posted

end Courier
