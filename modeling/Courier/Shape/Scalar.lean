import Courier.Json.Basic
import Courier.Number.Decimal
import Courier.Shape.Fault
import Courier.Text.Blank

/-! Reading single values with the usual conversions: numerals in text, whole floats as integers, and
the words for yes and no. -/

namespace Courier

def checkText : Json → Checked String
  | .str s => .ok s
  | _ => .fault .stringType

/-- A sign that may stand in front, and whether it is a minus. -/
def splitSign : List Char → Bool × List Char
  | '-' :: r => (true, r)
  | '+' :: r => (false, r)
  | s => (false, s)

/-- The digits of a text of digits, in which single underscores may stand between digits. -/
def groupedDigits? : List Char → Option (List Char)
  | [] => none
  | [c] => if isDigit c then some [c] else none
  | c :: '_' :: r => if isDigit c then (groupedDigits? r).map (c :: ·) else none
  | c :: r => if isDigit c then (groupedDigits? r).map (c :: ·) else none

/-- Nothing, or a point and zeros. -/
def isZeroFraction : List Char → Bool
  | [] => true
  | '.' :: r => !r.isEmpty && r.all (· == '0')
  | _ => false

/-- The integer that a numeral writes, blanks around it allowed. -/
def checkNumeral (s : List Char) : Checked Int :=
  let t := stripBy isBlank s
  let (negative, r) := splitSign t
  match groupedDigits? (r.takeWhile (· ≠ '.')) with
  | none => .fault .intParsing
  | some ds =>
    if isZeroFraction (r.dropWhile (· ≠ '.')) then
      if 4300 < t.length then .fault .intParsingSize
      else .ok (if negative then -(ofDigits ds : Int) else ofDigits ds)
    else .fault .intParsing

/-- The least positive integer that 64 bits with a sign cannot hold. -/
def wordBound : Int := 9223372036854775808

/-- The integer that a float is, within the range of 64-bit integers. -/
def checkWholeFloat (x : Double) : Checked Int :=
  match x.toRat? with
  | none => .fault .finiteNumber
  | some q =>
    if q.den ≠ 1 then .fault .intFromFloat
    else if -wordBound < q.num ∧ q.num < wordBound then .ok q.num
    else .fault .intParsingSize

def checkInt : Json → Checked Int
  | .int n => .ok n
  | .bool b => .ok (if b then 1 else 0)
  | .float x => checkWholeFloat x
  | .str s => checkNumeral s.toList
  | _ => .fault .intType

def yesWords : List String := ["1", "true", "t", "yes", "y", "on"]

def noWords : List String := ["0", "false", "f", "no", "n", "off"]

def checkYesNo (s : String) : Checked Bool :=
  let w := s.map Char.toLower
  if yesWords.contains w then .ok true
  else if noWords.contains w then .ok false
  else .fault .boolParsing

def checkIntBool (n : Int) : Checked Bool :=
  if n = 1 then .ok true else if n = 0 then .ok false
  else if -wordBound ≤ n ∧ n < wordBound then .fault .boolParsing
  else .fault .boolType

def checkBool : Json → Checked Bool
  | .bool b => .ok b
  | .int n => checkIntBool n
  | .float x =>
    match checkWholeFloat x with
    | .ok n => checkIntBool n
    | .faulty _ => .fault .boolType
  | .str s => checkYesNo s
  | _ => .fault .boolType

/-- The double that a numeral writes: digits with a point and an exponent, each of which may be
absent, or a word for a number that is not finite. -/
def floatOfNumeral? (s : List Char) : Option Double :=
  let (negative, r) := splitSign s
  let word := r.map Char.toLower
  if word = "inf".toList ∨ word = "infinity".toList then some (.infinite negative)
  else if word = "nan".toList then some .nan
  else
    let (whole, r) := spanDigits r
    let (part, r) := match r with
      | '.' :: r => spanDigits r
      | r => ([], r)
    if whole.isEmpty && part.isEmpty then none
    else
      let value (e : Int) : Double :=
        .ofDecimal negative (ofDigits (whole ++ part)) (e - part.length)
      match r with
      | [] => some (value 0)
      | c :: r =>
        let (minus, ds) := splitSign r
        if (c = 'e' ∨ c = 'E') ∧ !ds.isEmpty ∧ ds.all isDigit then
          some (value (if minus then -(ofDigits ds : Int) else ofDigits ds))
        else none

/-- A text without its underscores, if none is at an end and no two are neighbours. -/
def withoutGrouping? (s : List Char) : Option (List Char) :=
  let rec twice : List Char → Bool
    | '_' :: '_' :: _ => true
    | _ :: r => twice r
    | [] => false
  if s.head? = some '_' ∨ s.getLast? = some '_' ∨ twice s then none
  else some (s.filter (· ≠ '_'))

def checkFloatNumeral (s : List Char) : Checked Double :=
  match floatOfNumeral? (stripBy isBlank s) with
  | some x => .ok x
  | none =>
    match (withoutGrouping? (stripBy isBlank s)).bind floatOfNumeral? with
    | some x => .ok x
    | none => .fault .floatParsing

def checkFloat : Json → Checked Double
  | .float x => .ok x
  | .int n => if (Double.ofInt n).isFinite then .ok (.ofInt n) else .fault .floatType
  | .bool b => .ok (.finite (if b then 1 else 0))
  | .str s => checkFloatNumeral s.toList
  | _ => .fault .floatType

end Courier
