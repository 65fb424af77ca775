import Courier.Metadata.Binder

/-! Choosing a binder: one of the ready-made ones, by scope and mode, or one for a stem of its own. -/

namespace Courier.Metadata

inductive Choice where
  | ready (scope : Scope) (mode : Mode)
  | own (stem : String) (mode : Mode)
  deriving DecidableEq, Repr

/-- Why no binder can be chosen. -/
inductive ChoiceFault where
  | noText (kind : String)
  | noScope (value : Json)
  | noMode (value : Json)
  deriving Repr

/-- The class of a fault. -/
def ChoiceFault.name : ChoiceFault → String
  | noText _ => "AttributeError"
  | _ => "ValueError"

def ChoiceFault.message : ChoiceFault → String
  | noText k => "'" ++ k ++ "' object has no attribute 'lower'"
  | noScope v => v.literal ++ " is not a valid MetadataScope"
  | noMode v => v.literal ++ " is not a valid BindMode"

def checkScope (v : Json) : Except ChoiceFault Scope :=
  match v with
  | .str s => (Scope.named? s).elim (.error (.noScope v)) .ok
  | v => .error (.noScope v)

def checkMode (v : Json) : Except ChoiceFault Mode :=
  match v with
  | .str s => (Mode.named? s).elim (.error (.noMode v)) .ok
  | v => .error (.noMode v)

namespace Choice

def binder : Choice → Binder
  | ready s m => .ofScope s m
  | own p m => .ofStem p m

/-- The constant of a ready-made binder. -/
def constant (scope : Scope) (mode : Mode) : String :=
  (if mode = .remove then "BIND_REMOVE_" else "BIND_") ++ scope.constant ++ "_METADATA"

/-- The constants that are this very binder. A binder made for the same stem is another one. -/
def constants : Choice → List String
  | ready s m => [constant s m]
  | own _ _ => []

def all : List Choice := Scope.all.flatMap fun s => Mode.all.map (ready s)

def named? (name : String) : Option Choice := all.find? (·.constants.contains name)

/-- The ready-made binder of a scope and a mode. The scope is checked first. -/
def ofScope (scope : Json) (mode : Json := .str "set") : Except ChoiceFault Choice := do
  let s ← checkScope scope
  let m ← checkMode mode
  .ok (ready s m)

/-- A binder for a stem of its own, which has to be text. -/
def ofStem (stem : Json) (mode : Json := .str "set") : Except ChoiceFault Choice :=
  match stem with
  | .str p => (checkMode mode).map (own p)
  | v => .error (.noText v.kindName)

end Choice

end Courier.Metadata
