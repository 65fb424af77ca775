import Courier.Metadata.Binder
import Courier.Service.Client

/-! Metadata of accounts, containers and objects in the object storage. -/

namespace Courier.Service

open Metadata (Scope Mode Binder Offered ArgumentFault)

/-- What carries metadata. -/
inductive Place where
  | account
  | container (container : String)
  | object (container name : String)
  deriving DecidableEq, Repr

namespace Place

def scope : Place → Scope
  | account => .account
  | container _ => .container
  | object _ _ => .object

def endpoint : Place → String
  | account => ""
  | container c => "/" ++ c
  | object c n => "/" ++ c ++ "/" ++ n

end Place

inductive StorageError where
  | argument (fault : ArgumentFault)
  | client (error : ClientError)
  deriving Repr

namespace Client

def storage (baseUrl : String) (config : Config := {}) : Client :=
  .make baseUrl "object_storage" config

def storageOf (s : Settings) : Client := .storage s.storageUrl (.ofSettings s)

/-- Whether the place exists, when a request to it has ended. -/
def existence : Except ClientError Response → Except StorageError Bool
  | .ok _ => .ok true
  | .error (.response status d b) =>
    if status = 404 then .ok false else .error (.client (.response status d b))
  | .error e => .error (.client e)

/-- The request that carries metadata to a place. -/
def metadataRequest (p : Place) : HttpRequest :=
  { method := "POST", endpoint := p.endpoint, more := () }

/-- Sets or removes metadata of a place. The answer is whether the place exists. -/
def postMetadata (c : Client) (p : Place) (mode : Mode) (metadata : Offered) (script : Script)
    (s : State) : Ended StorageError Bool :=
  match (Binder.ofScope p.scope mode).bind (some (metadataRequest p)) metadata with
  | .error f => ⟨.error (.argument f), s, []⟩
  | .ok (r, entry) =>
    let sent := c.send r script s
    ⟨existence sent.result, sent.state, .logged entry :: sent.events⟩

section Operations

variable (c : Client) (container name : String) (metadata : Offered) (script : Script) (s : State)

def updateAccountMetadata : Ended StorageError Bool :=
  c.postMetadata .account .set metadata script s

def deleteAccountMetadata : Ended StorageError Bool :=
  c.postMetadata .account .remove metadata script s

def updateContainerMetadata : Ended StorageError Bool :=
  c.postMetadata (.container container) .set metadata script s

def deleteContainerMetadata : Ended StorageError Bool :=
  c.postMetadata (.container container) .remove metadata script s

def updateObjectMetadata : Ended StorageError Bool :=
  c.postMetadata (.object container name) .set metadata script s

def deleteObjectMetadata : Ended StorageError Bool :=
  c.postMetadata (.object container name) .remove metadata script s

/-- The operation for a place and a mode. -/
def changeMetadata : Place → Mode → Ended StorageError Bool
  | .account, .set => c.updateAccountMetadata metadata script s
  | .account, .remove => c.deleteAccountMetadata metadata script s
  | .container container, .set => c.updateContainerMetadata container metadata script s
  | .container container, .remove => c.deleteContainerMetadata container metadata script s
  | .object container name, .set => c.updateObjectMetadata container name metadata script s
  | .object container name, .remove => c.deleteObjectMetadata container name metadata script s

end Operations

end Client

end Courier.Service
