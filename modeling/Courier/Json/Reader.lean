import Courier.Json.Basic
import Courier.Number.Decimal
import Courier.Text.WideUnits

/-! Reading JSON text: the grammar of RFC 8259, with the three words for numbers that are not
finite. -/

namespace Courier.Json

/-- What a reader admits beyond the common grammar. -/
structure Limits where
  /-- How deep arrays and objects may nest. -/
  depth : Nat
  /-- Whether an escape for half a surrogate pair may stand alone; it reads as the replacement
  character. -/
  halves : Bool
  /-- How many digits an integer may have. -/
  digits : Nat

inductive ReadFault where
  | malformed
  | tooDeep (inObject : Bool)
  deriving DecidableEq, Repr

/-- A value read from the front of a text, and the rest of the text. -/
abbrev Read (α : Type) := Except ReadFault (α × List Char)

def isJsonBlank (c : Char) : Bool := c == ' ' || c == '\t' || c == '\n' || c == '\r'

def skipBlank (s : List Char) : List Char := s.dropWhile isJsonBlank

/-- Where a string stands between two characters. `half` is a high surrogate that waits for its
partner. -/
inductive StringMode where
  | plain (half : Option Nat)
  | escape (half : Option Nat)
  | hex (half : Option Nat) (left code : Nat)
  deriving DecidableEq, Repr

def simpleEscape? (c : Char) : Option Char :=
  if c = '"' ∨ c = '\\' ∨ c = '/' then some c
  else if c = 'b' then some '\x08'
  else if c = 'f' then some '\x0c'
  else if c = 'n' then some '\n'
  else if c = 'r' then some '\r'
  else if c = 't' then some '\t'
  else none

/-- The characters before a new one, given a half that may be left alone. -/
def settleHalf (halves : Bool) (half : Option Nat) (acc : List Char) : Option (List Char) :=
  match half with
  | none => some acc
  | some _ => if halves then some (replacement :: acc) else none

/-- A code written by an escape, after a half that may wait for it. -/
def takeCode (halves : Bool) (half : Option Nat) (code : Nat) (acc : List Char) :
    Option (StringMode × List Char) :=
  match half with
  | some h =>
    if isLowHalf code then some (.plain none, charOfCode (joinHalves h code) :: acc)
    else do
      let acc ← settleHalf halves half acc
      if isHighHalf code then some (.plain (some code), acc)
      else some (.plain none, charOfCode code :: acc)
  | none =>
    if isHighHalf code then some (.plain (some code), acc)
    else if isLowHalf code then
      if halves then some (.plain none, replacement :: acc) else none
    else some (.plain none, charOfCode code :: acc)

/-- One character inside a string: the mode after it and the characters read, last first. -/
def stringStep (halves : Bool) (mode : StringMode) (acc : List Char) (c : Char) :
    Option (StringMode × List Char) :=
  match mode with
  | .plain half =>
    if c = '\\' then some (.escape half, acc)
    else if c < ' ' then none
    else (settleHalf halves half acc).map fun acc => (.plain none, c :: acc)
  | .escape half =>
    if c = 'u' then some (.hex half 4 0, acc)
    else do
      let acc ← settleHalf halves half acc
      let d ← simpleEscape? c
      some (.plain none, d :: acc)
  | .hex half left code => do
    let v ← hexValue? c
    let code := 16 * code + v
    if left ≤ 1 then takeCode halves half code acc else some (.hex half (left - 1) code, acc)

/-- The string that ends at the next bare quote. -/
def readString (halves : Bool) (mode : StringMode) (acc : List Char) : List Char → Read String
  | [] => .error .malformed
  | c :: r =>
    match c, mode with
    | '"', .plain half =>
      match settleHalf halves half acc with
      | some acc => .ok (String.ofList acc.reverse, r)
      | none => .error .malformed
    | c, mode =>
      match stringStep halves mode acc c with
      | some (mode, acc) => readString halves mode acc r
      | none => .error .malformed

/-- The digits after a point, if there is a point; `none` if no digit follows it. -/
def readFraction (s : List Char) : Option (Option (List Char) × List Char) :=
  match s with
  | '.' :: r =>
    let (ds, rest) := spanDigits r
    if ds.isEmpty then none else some (some ds, rest)
  | _ => some (none, s)

/-- A sign that may stand before digits, and whether it is a minus. -/
def readSign (s : List Char) : Bool × List Char :=
  match s with
  | '-' :: r => (true, r)
  | '+' :: r => (false, r)
  | _ => (false, s)

/-- The exponent, if one is written; `none` if its digits are missing. -/
def readExponent (s : List Char) : Option (Option Int × List Char) :=
  match s with
  | [] => some (none, s)
  | c :: r =>
    if c = 'e' ∨ c = 'E' then
      let (negative, r) := readSign r
      let (ds, rest) := spanDigits r
      if ds.isEmpty then none
      else some (some (if negative then -(ofDigits ds : Int) else ofDigits ds), rest)
    else some (none, s)

/-- The number of the given parts. One with a point or an exponent is a float. -/
def numberOf (negative : Bool) (whole : List Char) (part : Option (List Char))
    (exponent : Option Int) : Json :=
  if part.isNone && exponent.isNone then
    .int (if negative then -(ofDigits whole : Int) else ofDigits whole)
  else
    let part := part.getD []
    .float (.ofDecimal negative (ofDigits (whole ++ part)) (exponent.getD 0 - part.length))

/-- A number without its sign. -/
def readMagnitude (digits : Nat) (negative : Bool) (s : List Char) : Read Json :=
  let (whole, r) := spanDigits s
  if whole.isEmpty ∨ (whole.head? = some '0' ∧ 1 < whole.length) then .error .malformed
  else
    match readFraction r with
    | none => .error .malformed
    | some (part, r) =>
      match readExponent r with
      | none => .error .malformed
      | some (exponent, r) =>
        if part.isNone && exponent.isNone && digits < whole.length then .error .malformed
        else .ok (numberOf negative whole part exponent, r)

/-- A fixed word and what it stands for. -/
def readWord (word : String) (value : Json) (s : List Char) : Read Json :=
  if word.toList.isPrefixOf s then .ok (value, s.drop word.length) else .error .malformed

def readNumber (digits : Nat) (s : List Char) : Read Json :=
  match s with
  | '-' :: 'I' :: _ => readWord "-Infinity" (.float (.infinite true)) s
  | '-' :: r => readMagnitude digits true r
  | _ => readMagnitude digits false s

/-- The items of an array up to its end, each read by `value`; at most `fuel` of them. -/
def readItems (value : List Char → Read Json) :
    (fuel : Nat) → (acc : List Json) → List Char → Read Json
  | 0, _, _ => .error .malformed
  | fuel + 1, acc, s =>
    match value (skipBlank s) with
    | .error e => .error e
    | .ok (v, r) =>
      match skipBlank r with
      | ',' :: r => readItems value fuel (v :: acc) r
      | ']' :: r => .ok (.arr (v :: acc).reverse, r)
      | _ => .error .malformed

/-- A key, the colon behind it, and the value that `value` reads. -/
def readEntry (halves : Bool) (value : List Char → Read Json) (s : List Char) :
    Read (String × Json) :=
  match s with
  | '"' :: r =>
    match readString halves (.plain none) [] r with
    | .error e => .error e
    | .ok (k, r) =>
      match skipBlank r with
      | ':' :: r =>
        match value (skipBlank r) with
        | .error e => .error e
        | .ok (v, r) => .ok ((k, v), r)
      | _ => .error .malformed
  | _ => .error .malformed

/-- The entries of an object up to its end; at most `fuel` of them. Of a repeated key the last value
counts. -/
def readEntries (halves : Bool) (value : List Char → Read Json) :
    (fuel : Nat) → (acc : List (String × Json)) → List Char → Read Json
  | 0, _, _ => .error .malformed
  | fuel + 1, acc, s =>
    match readEntry halves value (skipBlank s) with
    | .error e => .error e
    | .ok (entry, r) =>
      match skipBlank r with
      | ',' :: r => readEntries halves value fuel (entry :: acc) r
      | '}' :: r => .ok (.obj (Entries.ofPairs (entry :: acc).reverse), r)
      | _ => .error .malformed

/-- A value at the front of a text, with at most `depth` levels of arrays and objects of at most
`fuel` parts. -/
def readValue (limits : Limits) (fuel : Nat) (depth : Nat) (s : List Char) : Read Json :=
  match s with
  | [] => .error .malformed
  | c :: r =>
    if c = '"' then
      match readString limits.halves (.plain none) [] r with
      | .error e => .error e
      | .ok (t, r) => .ok (.str t, r)
    else if c = '[' then
      match depth with
      | 0 => .error (.tooDeep false)
      | depth + 1 =>
        match skipBlank r with
        | ']' :: r => .ok (.arr [], r)
        | r => readItems (readValue limits fuel depth) fuel [] r
    else if c = '{' then
      match depth with
      | 0 => .error (.tooDeep true)
      | depth + 1 =>
        match skipBlank r with
        | '}' :: r => .ok (.obj [], r)
        | r => readEntries limits.halves (readValue limits fuel depth) fuel [] r
    else if c = 'n' then readWord "null" .null s
    else if c = 't' then readWord "true" (.bool true) s
    else if c = 'f' then readWord "false" (.bool false) s
    else if c = 'N' then readWord "NaN" (.float .nan) s
    else if c = 'I' then readWord "Infinity" (.float (.infinite false)) s
    else readNumber limits.digits s

/-- The value that a whole text writes, blanks around it allowed. -/
def read (limits : Limits) (s : List Char) : Except ReadFault Json :=
  match readValue limits s.length limits.depth (skipBlank s) with
  | .error e => .error e
  | .ok (v, r) => if (skipBlank r).isEmpty then .ok v else .error .malformed

end Courier.Json
