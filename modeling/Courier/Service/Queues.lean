import Courier.Queue.Parsing
import Courier.Service.Client

/-! Messages in the queue service. -/

namespace Courier.Service

inductive QueueError where
  | malformed (fault : MalformedResponse)
  | client (error : ClientError)
  deriving Repr

/-- Which page of messages to list. Marker and limit count only where they are not null. -/
structure Page where
  marker : Json := .null
  limit : Json := .null
  echo : Json := .bool false
  deriving Repr

/-- The query parameters of a page. -/
def Page.params (p : Page) : Entries String Json :=
  [("echo", .str (if p.echo.isTruthy then "true" else "false"))] ++
    (if p.marker.isNull then [] else [("marker", p.marker)]) ++
    (if p.limit.isNull then [] else [("limit", p.limit)])

namespace Client

def queues (baseUrl clientId : String) (config : Config := {}) : Client :=
  .make baseUrl "queues" config [("Client-ID", clientId)]

def queuesOf (s : Settings) : Client := .queues s.queuesUrl s.clientId (.ofSettings s)

def messagesEndpoint (queue : String) : String := "/queues/" ++ queue ++ "/messages"

/-- Sends a request and parses the answer. What the parser logs comes last. -/
def sendThen {α : Type} (c : Client) (r : HttpRequest) (script : Script) (s : State)
    (parse : Response → Except MalformedResponse (α × List Log.Entry)) : Ended QueueError α :=
  let sent := c.send r script s
  match sent.result with
  | .error e => ⟨.error (.client e), sent.state, sent.events⟩
  | .ok answer =>
    match parse answer with
    | .error m => ⟨.error (.malformed m), sent.state, sent.events⟩
    | .ok (a, entries) => ⟨.ok a, sent.state, sent.events ++ entries.map .logged⟩

/-- Lists one page of the messages in a queue. -/
def listMessages (c : Client) (queue : String) (page : Page) (script : Script) (s : State) :
    Ended QueueError MessageStream :=
  let r : HttpRequest :=
    { method := "GET", endpoint := messagesEndpoint queue, params := some page.params, more := () }
  c.sendThen r script s fun answer => parseStream decodeBody answer.status answer.body

/-- Posts messages to a queue. The answer is their ids. -/
def postMessages (c : Client) (queue : String) (messages : Json) (script : Script) (s : State) :
    Ended QueueError (List String) :=
  let r : HttpRequest :=
    { method := "POST", endpoint := messagesEndpoint queue, payload := messages, more := () }
  c.sendThen r script s fun answer => parseIds decodeBody answer.body

end Client

end Courier.Service
