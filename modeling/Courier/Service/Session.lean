import Courier.Service.Queues
import Courier.Service.Storage

/-! Sessions: a client in use, one action after another. -/

namespace Courier.Service

open Metadata (Mode Offered ArgumentFault)

inductive Action where
  /-- Checks a value as a request, and sends it. -/
  | send (request : Json)
  | metadata (place : Place) (mode : Mode) (offered : Offered)
  | list (queue : String) (page : Page)
  | post (queue : String) (messages : Json)
  | getClient
  | close
  | enter
  /-- Leaves the client as a context, which closes it. -/
  | exit
  | recordFailure (failure : Failure)
  | advance (seconds : Double)
  | correlate (id : Option String)
  deriving Repr

/-- What an action answers. -/
inductive Answer where
  | response (r : Response)
  | existence (found : Bool)
  | stream (s : MessageStream)
  | ids (ids : List String)
  | client (reused : Bool)
  | entered
  | nothing
  deriving Repr

inductive ActionError where
  | invalid (faults : List Fault)
  | argument (fault : ArgumentFault)
  | malformed (fault : MalformedResponse)
  | client (error : ClientError)
  deriving Repr

def ActionError.ofStorage : StorageError → ActionError
  | .argument f => .argument f
  | .client e => .client e

def ActionError.ofQueue : QueueError → ActionError
  | .malformed m => .malformed m
  | .client e => .client e

/-- The end of an operation with its result seen another way. -/
def Ended.view {ε ε' α β : Type} (onError : ε → ε') (onValue : α → β) (e : Ended ε α) :
    Ended ε' β :=
  ⟨match e.result with
    | .ok a => .ok (onValue a)
    | .error x => .error (onError x), e.state, e.events⟩

namespace Client

/-- Performs an action. The script answers the calls that it makes. -/
def perform (c : Client) (a : Action) (script : Script) (s : State) : Ended ActionError Answer :=
  match a with
  | .send v =>
    match (Model.check v : Checked HttpRequest) with
    | .ok r => (c.send r script s).view .client .response
    | .faulty fs => ⟨.error (.invalid fs), s, []⟩
  | .metadata p mode m => (c.changeMetadata m script s p mode).view .ofStorage .existence
  | .list q page => (c.listMessages q page script s).view .ofQueue .stream
  | .post q ms => (c.postMessages q ms script s).view .ofQueue .ids
  | .getClient => ⟨.ok (.client s.connected), (c.connect s).1, (c.connect s).2⟩
  | .close | .exit => ⟨.ok .nothing, (c.close s).1, (c.close s).2⟩
  | .enter => ⟨.ok .entered, s, []⟩
  | .recordFailure _ => ⟨.ok .nothing, (c.recordFailure s).1, (c.recordFailure s).2⟩
  | .advance seconds => ⟨.ok .nothing, { s with clock := s.clock.add seconds }, []⟩
  | .correlate id => ⟨.ok .nothing, { s with correlation := id }, []⟩

/-- Performs actions one after another, each with its script, and gives the end of each. -/
def performAll (c : Client) : List (Action × Script) → State → List (Ended ActionError Answer)
  | [], _ => []
  | (a, script) :: rest, s =>
    let e := c.perform a script s
    e :: c.performAll rest e.state

/-- The state behind a list of actions. -/
def finalState (c : Client) (s : State) (steps : List (Action × Script)) : State :=
  steps.foldl (fun s (a, script) => (c.perform a script s).state) s

end Client

namespace Event

def call? : Event → Option Call
  | called c => some c
  | _ => none

def sleep? : Event → Option Double
  | slept x => some x
  | _ => none

def creation? : Event → Option Timeouts
  | created t => some t
  | _ => none

def entry? : Event → Option Log.Entry
  | logged e => some e
  | _ => none

end Event

end Courier.Service
