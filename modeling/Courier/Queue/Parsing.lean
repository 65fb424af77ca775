import Courier.Log.Entry
import Courier.Queue.Listing

/-! From the answers of the queue service to pages of messages and message ids. -/

namespace Courier

/-- A body that does not have the expected shape. -/
structure MalformedResponse where
  detail : String
  body : Option Bytes := none
  faults : Option (List Fault) := none
  deriving Repr

def MalformedResponse.message (e : MalformedResponse) : String := "Malformed response: " ++ e.detail

/-- Reads a body as an object of a kind. -/
def decodeBody {α : Type} [Model α] (body : Bytes) : Except MalformedResponse α :=
  match checkBody body with
  | .ok a => .ok a
  | .faulty fs =>
    .error ⟨"cannot decode " ++ Model.title α ++ ": " ++ toString fs.length ++ " error(s)",
      some body, some fs⟩

/-- The id of a message: what follows the last slash of its address. -/
def parseMessageId (href : String) : String :=
  String.ofList (href.toList.reverse.takeWhile (· ≠ '/')).reverse

/-- The status of an answer without content. -/
def noContent : Int := 204

def ListedMessage.toMessage (m : ListedMessage) : Message :=
  ⟨parseMessageId m.href, m.ttl, m.body, m.age⟩

/-- The page that a listing describes. -/
def Listing.toStream (l : Listing) : MessageStream :=
  ⟨l.messages.map ListedMessage.toMessage, .ofList l.links⟩

def Posted.ids (p : Posted) : List String := p.resources.map parseMessageId

def emptyStreamEntry : Log.Entry := .about .messagesParse .debug "Empty message stream" []

def streamEntry (l : Listing) : Log.Entry :=
  .about .messagesParse .debug "Message stream parsed"
    [("messages", .int l.messages.length), ("links", .int l.links.length)]

/-- A warning if some of the posted messages were refused. -/
def postedEntries (p : Posted) : List Log.Entry :=
  if p.partly then
    [.about .messagesParse .warning "Queue accepted only part of the posted messages"
      [("accepted", .int p.resources.length)]]
  else []

section

variable {m : Type → Type} [Monad m]

/-- The page of messages in an answer, and what is logged about it. An answer without content is an
empty page; any other body goes to the decoder, once. -/
def parseStream (decode : Bytes → m Listing) (status : Int) (body : Bytes) :
    m (MessageStream × List Log.Entry) :=
  if status = noContent then pure (.empty, [emptyStreamEntry])
  else do
    let l ← decode body
    pure (l.toStream, [streamEntry l])

/-- The ids of the messages that an answer says were accepted, and what is logged about it. -/
def parseIds (decode : Bytes → m Posted) (body : Bytes) : m (List String × List Log.Entry) := do
  let p ← decode body
  pure (p.ids, postedEntries p)

/-- A parser of listings, with the decoder that was given to it. -/
structure StreamParser (m : Type → Type) where
  decode : Bytes → m Listing

namespace StreamParser

def parse (p : StreamParser m) (status : Int) (body : Bytes) :
    m (MessageStream × List Log.Entry) :=
  parseStream p.decode status body

/-- The parser applied to an answer. -/
def call (p : StreamParser m) (status : Int) (body : Bytes) :
    m (MessageStream × List Log.Entry) :=
  p.parse status body

instance : CoeFun (StreamParser m) fun _ => Int → Bytes → m (MessageStream × List Log.Entry) :=
  ⟨call⟩

end StreamParser

/-- A parser of the ids of posted messages, with the decoder that was given to it. -/
structure IdsParser (m : Type → Type) where
  decode : Bytes → m Posted

namespace IdsParser

def parse (p : IdsParser m) (_status : Int) (body : Bytes) : m (List String × List Log.Entry) :=
  parseIds p.decode body

/-- The parser applied to an answer. -/
def call (p : IdsParser m) (status : Int) (body : Bytes) : m (List String × List Log.Entry) :=
  p.parse status body

instance : CoeFun (IdsParser m) fun _ => Int → Bytes → m (List String × List Log.Entry) := ⟨call⟩

end IdsParser

end

end Courier
