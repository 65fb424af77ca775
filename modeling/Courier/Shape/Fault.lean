/-! What is wrong with the shape of a value, and where. -/

namespace Courier

/-- A step from a value to one of its parts. -/
inductive Step where
  | field (name : String)
  | index (position : Nat)
  deriving DecidableEq, Repr

inductive FaultKind where
  | missing
  | modelType
  | stringType
  | tupleType
  | frozenSetType
  | dictType
  | tooLong
  | intType
  | intParsing
  | intParsingSize
  | intFromFloat
  | finiteNumber
  | boolType
  | boolParsing
  | floatType
  | floatParsing
  | extraForbidden
  | jsonInvalid
  | frozenInstance
  deriving DecidableEq, Repr

def FaultKind.name : FaultKind → String
  | missing => "missing"
  | modelType => "model_type"
  | stringType => "string_type"
  | tupleType => "tuple_type"
  | frozenSetType => "frozen_set_type"
  | dictType => "dict_type"
  | tooLong => "too_long"
  | intType => "int_type"
  | intParsing => "int_parsing"
  | intParsingSize => "int_parsing_size"
  | intFromFloat => "int_from_float"
  | finiteNumber => "finite_number"
  | boolType => "bool_type"
  | boolParsing => "bool_parsing"
  | floatType => "float_type"
  | floatParsing => "float_parsing"
  | extraForbidden => "extra_forbidden"
  | jsonInvalid => "json_invalid"
  | frozenInstance => "frozen_instance"

/-- A fault and the path from the whole value to the part that has it. -/
structure Fault where
  path : List Step
  kind : FaultKind
  deriving DecidableEq, Repr

def Fault.under (s : Step) (f : Fault) : Fault := { f with path := s :: f.path }

/-- The outcome of checking a value: what it stands for, or all its faults in order. -/
inductive Checked (α : Type) where
  | ok (value : α)
  | faulty (faults : List Fault)
  deriving Repr

namespace Checked

variable {α β γ : Type}

def fault (k : FaultKind) : Checked α := faulty [⟨[], k⟩]

def faults : Checked α → List Fault
  | ok _ => []
  | faulty fs => fs

def map (f : α → β) : Checked α → Checked β
  | ok a => ok (f a)
  | faulty fs => faulty fs

/-- Both outcomes together: the faults of the first come before those of the second. -/
def and (x : Checked (α → β)) (y : Checked α) : Checked β :=
  match x, y with
  | ok f, ok a => ok (f a)
  | ok _, faulty gs => faulty gs
  | faulty fs, ok _ => faulty fs
  | faulty fs, faulty gs => faulty (fs ++ gs)

def bind (x : Checked α) (f : α → Checked β) : Checked β :=
  match x with
  | ok a => f a
  | faulty fs => faulty fs

/-- The outcome for a part, seen from the whole. -/
def under (s : Step) : Checked α → Checked α
  | ok a => ok a
  | faulty fs => faulty (fs.map (Fault.under s))

/-- Each item of a list checked by itself, from the given position on. -/
def each (check : α → Checked β) : Nat → List α → Checked (List β)
  | _, [] => ok []
  | i, a :: as => ((under (.index i) (check a)).map List.cons).and (each check (i + 1) as)

end Checked

end Courier
