import Courier.Text.Blank
import Courier.Text.Hex
import Courier.Text.Lower

/-! The parameters of a header value. A value may be given in numbered sections, and a section may
be escaped; the sections together then begin with the character set and the language of the rest. -/

namespace Courier

/-- What reading a text raises: a class and a message. -/
structure Trouble where
  name : String
  message : String
  deriving DecidableEq, Repr

namespace Parameter

/-- The parts of a header value between semicolons that stand outside of quotes. -/
def splitParts (s : List Char) : List (List Char) :=
  let rec go (acc : List Char) (inQuotes : Bool) (last : Char) : List Char → List (List Char)
    | [] => [acc.reverse]
    | c :: r =>
      if c = ';' ∧ !inQuotes then acc.reverse :: go [] false ';' r
      else go (c :: acc) (if c = '"' ∧ last ≠ '\\' then !inQuotes else inQuotes) c r
  go [] false ';' s

/-- A text without the backslashes that stand before a mark. -/
def unescape (mark : Char) : List Char → List Char
  | '\\' :: c :: r => if c = mark then c :: unescape mark r else '\\' :: unescape mark (c :: r)
  | c :: r => c :: unescape mark r
  | [] => []

/-- A value without its quotes. -/
def unquote (s : List Char) : List Char :=
  let inner := (s.drop 1).dropLast
  if 1 < s.length ∧ s.head? = some '"' ∧ s.getLast? = some '"' then
    unescape '"' (unescape '\\' inner)
  else if 1 < s.length ∧ s.head? = some '<' ∧ s.getLast? = some '>' then inner
  else s

/-- The name of a parameter in small letters, and its value. -/
def ofPart (s : List Char) : List Char × List Char :=
  let name := s.takeWhile (· ≠ '=')
  let value := (s.dropWhile (· ≠ '=')).drop 1
  (lower (stripBy isSpacing name), unquote (stripBy isSpacing value))

/-- A section of a value: its number, if it has one. -/
structure Section where
  number : Option Nat
  value : List Char
  escaped : Bool
  deriving DecidableEq, Repr

/-- The name before the asterisk and the digits behind it, if a name is that of a section. -/
def sectionName? (name : List Char) : Option (List Char × List Char) :=
  let isWord (c : Char) : Bool := c.isAlphanum || c == '_'
  match name.dropWhile isWord with
  | '*' :: r =>
    let digits := r.takeWhile Char.isDigit
    let behind := r.dropWhile Char.isDigit
    if !(name.takeWhile isWord).isEmpty &&
        (behind.isEmpty || (behind == ['*'] && !digits.isEmpty)) then
      some (name.takeWhile isWord, digits)
    else none
  | _ => none

/-- The number that digits write. None is written by no digits; there is a limit to their count. -/
def sectionNumber (digits : List Char) : Except Trouble (Option Nat) :=
  if digits.isEmpty then .ok none
  else if 4300 < digits.length then
    .error ⟨"ValueError",
      "Exceeds the limit (4300 digits) for integer string conversion: value has " ++
      toString digits.length ++ " digits; use sys.set_int_max_str_digits() to increase the limit"⟩
  else .ok (some (digits.foldl (fun n c => 10 * n + (c.toNat - 48)) 0))

/-- Whether a section stands no later than another one with a number of the same kind. -/
def Section.before (a b : Section) : Bool :=
  let text (s : Section) : String := String.ofList s.value
  match compare (a.number.getD 0) (b.number.getD 0) with
  | .lt => true
  | .gt => false
  | .eq => text a < text b || (text a == text b && (!a.escaped || b.escaped))

def Section.kind (s : Section) : String := if s.number.isSome then "int" else "NoneType"

/-- The sections of a value in order. Either all of them are numbered or none is. -/
def arrange (sections : List Section) : Except Trouble (List Section) :=
  match sections with
  | [] => .ok []
  | first :: _ =>
    match sections.find? (·.number.isSome != first.number.isSome) with
    | some other =>
      .error ⟨"TypeError", "'<' not supported between instances of '" ++ other.kind ++ "' and '" ++
        first.kind ++ "'"⟩
    | none => .ok (sections.mergeSort Section.before)

/-- A text with its escapes read as one character each. -/
def unescapeOctets : List Char → List Char
  | '%' :: a :: b :: r =>
    match hexValue? a, hexValue? b with
    | some h, some l => Char.ofNat (16 * h + l) :: unescapeOctets r
    | _, _ => '%' :: unescapeOctets (a :: b :: r)
  | c :: r => c :: unescapeOctets r
  | [] => []

/-- A value, with the character set that its octets are in if it names one. -/
inductive Value where
  | plain (text : List Char)
  | octets (set : List Char) (text : List Char)
  deriving DecidableEq, Repr

/-- The value that sections make up. If one of them is escaped, then an apostrophe each ends the
character set and the language, unless there are less than two. -/
def Value.ofSections (sections : List Section) : Value :=
  let text := sections.flatMap fun s => if s.escaped then unescapeOctets s.value else s.value
  if sections.any (·.escaped) then
    let set := text.takeWhile (· ≠ '\'')
    let behind := (text.dropWhile (· ≠ '\'')).drop 1
    match behind.dropWhile (· ≠ '\'') with
    | _ :: r => .octets set r
    | [] => .octets [] text
  else .plain text

/-- What a header value gives for a parameter. The first part is no section, whatever its name; what
is given plainly comes before what is given in sections. -/
def find? (headerValue : String) (name : List Char) : Except Trouble (Option Value) := do
  let written := (splitParts headerValue.toList).map ofPart
  let sections ← (written.drop 1).filterMapM fun (n, v) =>
    match sectionName? n with
    | none => .ok none
    | some (base, digits) =>
      (sectionNumber digits).map fun i => some (base, Section.mk i v (n.getLast? == some '*'))
  let arranged ← (sections.map (·.1)).eraseDups.mapM fun base =>
    (arrange ((sections.filter (·.1 == base)).map (·.2))).map fun ss => (base, Value.ofSections ss)
  let plain := written.take 1 ++ (written.drop 1).filter (sectionName? ·.1 |>.isNone)
  match plain.lookup name with
  | some v => .ok (some (.plain v))
  | none => .ok (arranged.lookup name)

end Parameter

end Courier
