import Courier.Json.Reader
import Courier.Shape.Scalar

/-! Objects with named fields: checking a JSON value or a JSON text against one, and writing it. -/

namespace Courier

/-- A kind of object with a title, read from JSON values and written to them. -/
class Model (α : Type) where
  title : String
  check : Json → Checked α
  toJson : α → Json

namespace Checked

variable {α : Type}

/-- The entries of an object. -/
def entries : Json → Checked (Entries String Json)
  | .obj es => ok es
  | _ => fault .modelType

/-- The items of an array; another value has the fault `k`. -/
def items (k : FaultKind) : Json → Checked (List Json)
  | .arr xs => ok xs
  | _ => fault k

/-- A list of checked items. -/
def listOf (k : FaultKind) (check : Json → Checked α) (v : Json) : Checked (List α) :=
  (items k v).bind (each check 0)

/-- A field that must be there. -/
def required (es : Entries String Json) (name : String) (check : Json → Checked α) : Checked α :=
  under (.field name) (match es.get? name with
    | some v => check v
    | none => fault .missing)

/-- A field that has a default. -/
def optional (es : Entries String Json) (name : String) (absent : α) (check : Json → Checked α) :
    Checked α :=
  match es.get? name with
  | some v => under (.field name) (check v)
  | none => ok absent

end Checked

/-- What a JSON body may hold: whole UTF-8, 200 levels, no half of a surrogate pair. -/
def bodyLimits : Json.Limits := ⟨200, false, 4300⟩

/-- The JSON value that a body writes. -/
def bodyJson? (body : Bytes) : Option Json :=
  match utf8Decode? body with
  | some s => (Json.read bodyLimits s).toOption
  | none => none

/-- The object that a JSON body writes. The whole body is read before anything is checked. -/
def checkBody {α : Type} [Model α] (body : Bytes) : Checked α :=
  match bodyJson? body with
  | some v => Model.check v
  | none => .fault .jsonInvalid

/-- Objects never change: to assign a field of any name is a fault at that field. -/
def checkAssignment {α : Type} (field : String) : Checked α :=
  .under (.field field) (.fault .frozenInstance)

end Courier
