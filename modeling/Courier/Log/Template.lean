import Courier.Json.Literal
import Courier.Text.WideUnits

/-! Event texts with conversions such as `%s` and `%5.2f`, and filling in their arguments. -/

namespace Courier.Log.Template

inductive Fault where
  | tooFew
  | tooMany
  | incomplete
  | noMapping
  | badWidth
  | wideCount (precise : Bool)
  | wideStar (precise : Bool)
  | unknown (c : Char) (position : Nat)
  | needsNumber (c : Char) (kind : String)
  | needsInteger (c : Char) (kind : String)
  | needsFloat (kind : String)
  | needsCharacter
  | notFinite (isNan : Bool)
  | tooLarge
  | noCharacter
  deriving DecidableEq, Repr

/-- The class of a fault. -/
def Fault.name : Fault → String
  | incomplete | wideCount _ | unknown _ _ | notFinite true => "ValueError"
  | wideStar _ | notFinite false | tooLarge | noCharacter => "OverflowError"
  | _ => "TypeError"

def Fault.message : Fault → String
  | tooFew => "not enough arguments for format string"
  | tooMany => "not all arguments converted during string formatting"
  | incomplete => "incomplete format"
  | noMapping => "format requires a mapping"
  | badWidth => "* wants int"
  | wideCount precise => (if precise then "precision" else "width") ++ " too big"
  | wideStar precise =>
    "Python int too large to convert to C " ++ (if precise then "int" else "ssize_t")
  | unknown c i =>
    "unsupported format character '" ++ (if 31 ≤ c.toNat ∧ c.toNat ≤ 126 then c else '?').toString ++
      "' (0x" ++ String.ofList (Nat.toDigits 16 c.toNat) ++ ") at index " ++ toString i
  | needsNumber c k => "%" ++ c.toString ++ " format: a real number is required, not " ++ k
  | needsInteger c k => "%" ++ c.toString ++ " format: an integer is required, not " ++ k
  | needsFloat k => "must be real number, not " ++ k
  | needsCharacter => "%c requires int or char"
  | notFinite true => "cannot convert float NaN to integer"
  | notFinite false => "cannot convert float infinity to integer"
  | tooLarge => "int too large to convert to float"
  | noCharacter => "%c arg not in range(0x110000)"

/-- A conversion: its flags, the least width, the precision, and the kind. -/
structure Conversion where
  left : Bool := false
  sign : Bool := false
  blank : Bool := false
  alternate : Bool := false
  zero : Bool := false
  width : Nat := 0
  precision : Option Nat := none
  kind : Char := '%'
  deriving Repr

/-- The text of a template that is left to read, and where it stands. -/
structure Cursor where
  position : Nat
  rest : List Char

/-- The next character. -/
def Cursor.next (s : Cursor) : Except Fault (Char × Cursor) :=
  match s.rest with
  | [] => .error .incomplete
  | c :: r => .ok (c, ⟨s.position + 1, r⟩)

def setFlag (v : Conversion) (c : Char) : Option Conversion :=
  if c = '-' then some { v with left := true }
  else if c = '+' then some { v with sign := true }
  else if c = ' ' then some { v with blank := true }
  else if c = '#' then some { v with alternate := true }
  else if c = '0' then some { v with zero := true }
  else none

/-- The flags at the front of a conversion. -/
def readFlags (v : Conversion) (i : Nat) : List Char → Conversion × Cursor
  | [] => (v, ⟨i, []⟩)
  | c :: r =>
    match setFlag v c with
    | some v => readFlags v (i + 1) r
    | none => (v, ⟨i, c :: r⟩)

/-- The greatest width, or precision, that can be asked for. -/
def countLimit (precise : Bool) : Int := if precise then 2147483647 else 9223372036854775807

/-- A number in the template or, for a star, from the arguments. -/
def readCount (precise : Bool) (s : Cursor) (args : List Json) :
    Except Fault (Option Int × Cursor × List Json) :=
  match s.rest, args with
  | '*' :: r, .int n :: args =>
    if n < -countLimit precise - 1 ∨ countLimit precise < n then .error (.wideStar precise)
    else .ok (some n, ⟨s.position + 1, r⟩, args)
  | '*' :: r, .bool b :: args => .ok (some (if b then 1 else 0), ⟨s.position + 1, r⟩, args)
  | '*' :: _, _ :: _ => .error .badWidth
  | '*' :: _, [] => .error .tooFew
  | rest, args =>
    let (ds, r) := spanDigits rest
    if countLimit precise < ofDigits ds then .error (.wideCount precise)
    else .ok (if ds.isEmpty then none else some (ofDigits ds), ⟨s.position + ds.length, r⟩, args)

/-- The precision, if a point is there. -/
def readPrecision (s : Cursor) (args : List Json) :
    Except Fault (Option Nat × Cursor × List Json) :=
  match s.rest with
  | '.' :: r => do
    let (n, s, args) ← readCount true ⟨s.position + 1, r⟩ args
    .ok (some (n.getD 0).toNat, s, args)
  | _ => .ok (none, s, args)

/-- Drops a letter for the size of an argument. -/
def skipSize (s : Cursor) : Cursor :=
  match s.rest with
  | c :: r => if c = 'h' ∨ c = 'l' ∨ c = 'L' then ⟨s.position + 1, r⟩ else s
  | [] => s

/-- The conversion behind a percent sign. -/
def readConversion (i : Nat) (s : List Char) (args : List Json) :
    Except Fault (Conversion × Cursor × List Json) := do
  if s.head? = some '(' then .error .noMapping
  let (v, s) := readFlags {} i s
  let (width, s, args) ← readCount false s args
  let width := width.getD 0
  let (precision, s, args) ← readPrecision s args
  let (kind, s) ← (skipSize s).next
  .ok ({ v with left := v.left || decide (width < 0), width := width.natAbs, precision, kind }, s,
    args)

/-- The digits of a number, at least `least` of them. -/
def atLeast (least : Nat) (ds : List Char) : List Char :=
  List.replicate (least - ds.length) '0' ++ ds

/-- A magnitude with `places` digits after the point. -/
def fixedDigits (q : Rat) (places : Nat) (keepPoint : Bool) : List Char :=
  let n := (roundHalfEven (q * (power 10 places : Nat))).natAbs
  let ds := atLeast (places + 1) (natDigits n)
  let whole := ds.take (ds.length - places)
  whole ++ (if places = 0 && !keepPoint then [] else '.' :: ds.drop (ds.length - places))

/-- The digits of a magnitude rounded to one before the point and `places` behind it, and the
exponent. -/
def scientificDigits (q : Rat) (places : Nat) : List Char × Int :=
  if q = 0 then (List.replicate (places + 1) '0', 0)
  else
    let e := floorLog10 q.num.natAbs q.den
    let shift := (places : Int) - e
    let m := (roundHalfEven (q * (power 10 shift.toNat : Nat) /
      (power 10 (-shift).toNat : Nat))).natAbs
    let ds := natDigits m
    if places + 1 < ds.length then (ds.take (places + 1), e + 1) else (ds, e)

def scientific (ds : List Char) (e : Int) (keepPoint : Bool) : List Char :=
  match ds with
  | [] => []
  | [d] => d :: (if keepPoint then ['.'] else []) ++ 'e' :: exponentDigits e
  | d :: r => d :: '.' :: (r ++ 'e' :: exponentDigits e)

def withoutTail (ds : List Char) : List Char := (ds.reverse.dropWhile (· = '0')).reverse

/-- A magnitude with `places` significant digits, in the shorter of the two notations. -/
def generalDigits (q : Rat) (places : Nat) (alternate : Bool) : List Char :=
  let places := max places 1
  let (ds, e) := scientificDigits q (places - 1)
  if -4 ≤ e ∧ e < places then
    let text := fixedDigits q ((places : Int) - 1 - e).toNat alternate
    if alternate || !text.contains '.' then text
    else
      let kept := withoutTail text
      if kept.getLast? = some '.' then kept.dropLast else kept
  else
    scientific (if alternate then ds else ds.take 1 ++ withoutTail (ds.drop 1)) e alternate

/-- The text of a float, with a minus sign in front of a negative one. -/
def floatText (v : Conversion) (x : Double) : List Char :=
  let places := v.precision.getD 6
  let body := match x, x.toRat? with
    | .nan, _ => "nan".toList
    | _, none => "inf".toList
    | _, some q =>
      let q := if q < 0 then -q else q
      if v.kind.toLower = 'f' then fixedDigits q places v.alternate
      else if v.kind.toLower = 'e' then
        let (ds, e) := scientificDigits q places
        scientific ds e v.alternate
      else generalDigits q places v.alternate
  (if x.isNegative then ['-'] else []) ++ (if v.kind.isUpper then body.map Char.toUpper else body)

/-- The text of an integer: a sign, the mark of the base, and the digits. -/
def integerText (v : Conversion) (n : Int) : List Char :=
  let base := if v.kind = 'o' then 8 else if v.kind.toLower = 'x' then 16 else 10
  let ds := atLeast (v.precision.getD 0) (Nat.toDigits base n.natAbs)
  let mark := if v.alternate && base != 10 then ['0', if base = 8 then 'o' else 'x'] else []
  let body := (if n < 0 then ['-'] else []) ++ mark ++ ds
  if v.kind = 'X' then body.map Char.toUpper else body

/-- Puts a number into its width: zeros go behind the sign and the mark of the base. -/
def placeNumber (v : Conversion) (marked : Bool) (s : List Char) : List Char :=
  let (sign, s) := match s with
    | '-' :: r => (['-'], r)
    | s => (if v.sign then ['+'] else if v.blank then [' '] else [], s)
  let (mark, s) := if marked then (s.take 2, s.drop 2) else ([], s)
  let fill := v.width - (sign.length + mark.length + s.length)
  if v.left then sign ++ mark ++ s ++ List.replicate fill ' '
  else if v.zero then sign ++ mark ++ List.replicate fill '0' ++ s
  else List.replicate fill ' ' ++ sign ++ mark ++ s

def placeText (v : Conversion) (s : List Char) : List Char :=
  let fill := List.replicate (v.width - s.length) ' '
  if v.left then s ++ fill else fill ++ s

/-- The integer that an argument stands for; floats lose their fraction where that is allowed. -/
def integerOf (kind : Char) : Json → Except Fault Int
  | .int n => .ok n
  | .bool b => .ok (if b then 1 else 0)
  | .float x =>
    if kind = 'o' ∨ kind.toLower = 'x' then .error (.needsInteger kind "float")
    else
      match x.toRat? with
      | some q => .ok (truncate q)
      | none => .error (.notFinite (x == .nan))
  | v =>
    .error (if kind = 'o' ∨ kind.toLower = 'x' then .needsInteger kind v.kindName
      else .needsNumber kind v.kindName)

def floatOf : Json → Except Fault Double
  | .float x => .ok x
  | .bool b => .ok (.finite (if b then 1 else 0))
  | .int n => if (Double.ofInt n).isFinite then .ok (.ofInt n) else .error .tooLarge
  | v => .error (.needsFloat v.kindName)

def characterOf : Json → Except Fault Char
  | .str s =>
    match s.toList with
    | [c] => .ok c
    | _ => .error .needsCharacter
  | .int n => if 0 ≤ n ∧ n < 0x110000 then .ok (charOfCode n.toNat) else .error .noCharacter
  | .bool b => .ok (Char.ofNat (if b then 1 else 0))
  | _ => .error .needsCharacter

/-- Literal notation in ASCII. -/
def asciiLiteral (v : Json) : List Char :=
  v.literalChars.flatMap fun c => if c.toNat < 128 then [c] else codeEscape c.toNat

/-- An argument as its conversion shows it; `position` is where the kind stands. -/
def convert (v : Conversion) (position : Nat) (arg : Json) : Except Fault (List Char) :=
  let cut (s : List Char) : List Char := match v.precision with
    | some n => s.take n
    | none => s
  match v.kind with
  | 's' => .ok (placeText v (cut arg.display.toList))
  | 'r' => .ok (placeText v (cut arg.literalChars))
  | 'a' => .ok (placeText v (cut (asciiLiteral arg)))
  | 'c' => (characterOf arg).map fun c => placeText v [c]
  | 'd' | 'i' | 'u' => (integerOf v.kind arg).map fun n => placeNumber v false (integerText v n)
  | 'o' | 'x' | 'X' =>
    (integerOf v.kind arg).map fun n => placeNumber v v.alternate (integerText v n)
  | 'e' | 'E' | 'f' | 'F' | 'g' | 'G' =>
    (floatOf arg).map fun x => placeNumber v false (floatText v x)
  | c => .error (.unknown c position)

/-- Fills the arguments in, at most `fuel` conversions. -/
def fill : (fuel : Nat) → (position : Nat) → List Char → List Json → Except Fault (List Char)
  | _, _, [], [] => .ok []
  | _, _, [], _ :: _ => .error .tooMany
  | 0, _, _ :: _, _ => .error .incomplete
  | fuel + 1, i, c :: r, args =>
    if c ≠ '%' then (fill fuel (i + 1) r args).map (c :: ·)
    else do
      let (v, s, args) ← readConversion (i + 1) r args
      if v.kind = '%' then
        let tail ← fill fuel s.position s.rest args
        .ok ('%' :: tail)
      else
        match args with
        | [] => .error .tooFew
        | arg :: args =>
          let shown ← convert v (s.position - 1) arg
          let tail ← fill fuel s.position s.rest args
          .ok (shown ++ tail)

/-- A template with its arguments filled in. Every step reads a character, so the length suffices
as fuel. -/
def render (template : String) (args : List Json) : Except Fault String :=
  (fill template.length 0 template.toList args).map String.ofList

end Courier.Log.Template
