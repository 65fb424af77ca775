/-! The levels of the storage hierarchy that carry metadata, and what a binder does at them. -/

namespace Courier.Metadata

inductive Scope where
  | account
  | container
  | object
  deriving DecidableEq, Repr

namespace Scope

def all : List Scope := [account, container, object]

/-- What every metadata header of the level starts with. -/
def stem : Scope → String
  | account => "x-account-meta-"
  | container => "x-container-meta-"
  | object => "x-object-meta-"

/-- The name of the constant. -/
def constant : Scope → String
  | account => "ACCOUNT"
  | container => "CONTAINER"
  | object => "OBJECT"

def named? (value : String) : Option Scope := all.find? (·.stem == value)

end Scope

inductive Mode where
  | set
  | remove
  deriving DecidableEq, Repr

namespace Mode

def all : List Mode := [set, remove]

def value : Mode → String
  | set => "set"
  | remove => "remove"

/-- The name of the constant. -/
def constant : Mode → String
  | set => "SET"
  | remove => "REMOVE"

def named? (value : String) : Option Mode := all.find? (·.value == value)

end Mode

end Courier.Metadata
