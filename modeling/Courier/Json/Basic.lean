import Courier.Entries
import Courier.Number.Double

/-! JSON values, with integers of any size kept apart from binary64 numbers. -/

namespace Courier

inductive Json where
  | null
  | bool (value : Bool)
  | int (value : Int)
  | float (value : Double)
  | str (value : String)
  | arr (items : List Json)
  | obj (entries : List (String × Json))
  deriving Repr, Inhabited

namespace Json

/-- The short name of a value's kind. -/
def kindName : Json → String
  | null => "NoneType"
  | bool _ => "bool"
  | int _ => "int"
  | float _ => "float"
  | str _ => "str"
  | arr _ => "list"
  | obj _ => "dict"

/-- Everything counts as true but null, false, zero and what is empty. -/
def isTruthy : Json → Bool
  | null => false
  | bool b => b
  | int n => n != 0
  | float x => !(x.sameValue .zero)
  | str s => !s.isEmpty
  | arr xs => !xs.isEmpty
  | obj es => !es.isEmpty

def isNull : Json → Bool
  | null => true
  | _ => false

/-- The real number that a boolean, an integer or a float stands for. -/
def number? : Json → Option Double
  | bool b => some (.finite (if b then 1 else 0))
  | int n => some (.finite n)
  | float x => some x
  | _ => none

def get? (v : Json) (key : String) : Option Json :=
  match v with
  | obj es => Entries.get? es key
  | _ => none

/-- Equality of values of no parts: numbers of any kind by their value. -/
def sameScalar (x y : Json) : Bool :=
  match x, y with
  | null, null => true
  | str a, str b => a == b
  | x, y =>
    match x.number?, y.number? with
    | some a, some b => a.sameValue b
    | _, _ => false

mutual

/-- Equality of values: numbers of any kind by their value, arrays item by item, objects whatever
the order of their keys. -/
def same : Json → Json → Bool
  | arr xs, arr ys => sameItems xs ys
  | obj es, obj fs => es.length == fs.length && sameEntries es fs
  | x, y => sameScalar x y

def sameItems : List Json → List Json → Bool
  | [], [] => true
  | x :: xs, y :: ys => same x y && sameItems xs ys
  | _, _ => false

/-- Every entry of the first has an equal value under its key in the second. -/
def sameEntries : List (String × Json) → List (String × Json) → Bool
  | [], _ => true
  | (k, v) :: es, fs =>
    (match Entries.get? fs k with
      | some w => same v w
      | none => false) && sameEntries es fs

end

end Json

end Courier
