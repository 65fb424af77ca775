import Courier.Entries
import Courier.Text.Blank

/-! Settings files: lines `KEY=value` with comments, quotes, escapes, and values of earlier lines or of
the environment written as a name in braces behind a dollar sign. -/

namespace Courier.EnvFile

/-- A key of a file. One without an equals sign has no value. -/
structure Binding where
  key : String
  value : Option (List Char)
  deriving DecidableEq, Repr

def isBreak (c : Char) : Bool := c == '\n' || c == '\r'

/-- White space within a line. -/
def isGap (c : Char) : Bool := isSpacing c && !isBreak c

/-- Every line break as a single line feed. -/
def plainBreaks : List Char → List Char
  | '\r' :: '\n' :: r => '\n' :: plainBreaks r
  | '\r' :: r => '\n' :: plainBreaks r
  | c :: r => c :: plainBreaks r
  | [] => []

/-- What a scan reads and what it leaves, or the text that it does not accept. -/
abbrev Scan (α : Type) := Except (List Char) (α × List Char)

/-- Where a quoted value closes: at the first quote without a backslash in front or, if there is none,
at the last quote. `seen` is the text read so far, last first, and `spare` the closing that the last
quote behind a backslash would make. -/
def closeQuote (q : Char) (spare : Option (List Char × List Char)) (seen : List Char) :
    List Char → Option (List Char × List Char)
  | [] => spare
  | [c] => if c = q then some (seen.reverse, []) else spare
  | c :: d :: r =>
    if c = q then some (seen.reverse, d :: r)
    else if c = '\\' ∧ d = q then closeQuote q (some ((c :: seen).reverse, r)) (d :: c :: seen) r
    else closeQuote q spare (c :: seen) (d :: r)

def simpleEscape? (q c : Char) : Option Char :=
  if c = '\\' ∨ c = '\'' then some c
  else if q = '\'' then none
  else if c = '"' then some '"'
  else if c = 'a' then some '\x07'
  else if c = 'b' then some '\x08'
  else if c = 'f' then some '\x0c'
  else if c = 'n' then some '\n'
  else if c = 'r' then some '\r'
  else if c = 't' then some '\t'
  else if c = 'v' then some '\x0b'
  else none

/-- The text inside quotes with the escapes undone that its quote allows. -/
def unescape (q : Char) : List Char → List Char
  | '\\' :: c :: r =>
    match simpleEscape? q c with
    | some d => d :: unescape q r
    | none => '\\' :: unescape q (c :: r)
  | c :: r => c :: unescape q r
  | [] => []

/-- A value without its comment: the white space before the first number sign that follows white
space, and all after it, are left out. -/
def cutComment (seen : List Char) : List Char → List Char
  | [] => seen.reverse
  | c :: r =>
    if c = '#' ∧ (seen.head?.map isSpacing).getD false then (seen.dropWhile isSpacing).reverse
    else cutComment (c :: seen) r

def unquotedValue (line : List Char) : List Char := stripRightBy isSpacing (cutComment [] line)

def readQuoted (q : Char) (s : List Char) : Scan (List Char) :=
  match closeQuote q none [] (s.drop 1) with
  | some (v, r) => .ok (unescape q v, r)
  | none => .error s

/-- The value behind an equals sign. -/
def readValue (s : List Char) : Scan (List Char) :=
  match s with
  | [] => .ok ([], s)
  | c :: _ =>
    if c = '\'' ∨ c = '"' then readQuoted c s
    else .ok (unquotedValue (s.takeWhile (!isBreak ·)), s.dropWhile (!isBreak ·))

/-- The word `export` and white space behind it may stand before a key. -/
def skipExport (s : List Char) : List Char :=
  let word := "export".toList
  let r := s.drop word.length
  if word.isPrefixOf s && (r.head?.map isGap).getD false then r.dropWhile isGap else s

def isKeyChar (c : Char) : Bool := !(c == '=' || c == '#' || isSpacing c)

/-- The key at the front of a line; a comment has none. -/
def readKey (s : List Char) : Scan (Option String) :=
  match s with
  | '#' :: _ => .ok (none, s)
  | '\'' :: r =>
    match r.takeWhile (· ≠ '\''), r.dropWhile (· ≠ '\'') with
    | k :: ks, _ :: r => .ok (some (String.ofList (k :: ks)), r)
    | _, _ => .error s
  | s =>
    match s.takeWhile isKeyChar with
    | [] => .error s
    | k => .ok (some (String.ofList k), s.dropWhile isKeyChar)

/-- A comment and the end of the line. -/
def skipLineEnd (s : List Char) : Except (List Char) (List Char) :=
  let r := s.dropWhile isGap
  let r := if r.head? = some '#' then r.dropWhile (!isBreak ·) else s
  match r.dropWhile isGap with
  | [] => .ok []
  | c :: r' => if isBreak c then .ok r' else .error r

/-- The value, if an equals sign is there. -/
def readAssignment (s : List Char) : Scan (Option (List Char)) :=
  match s with
  | '=' :: r => (readValue (r.dropWhile isGap)).map fun (v, r) => (some v, r)
  | r => .ok (none, r)

/-- A line from its first character that is no white space. -/
def readLine (s : List Char) : Scan (Option Binding) :=
  (readKey (skipExport s)).bind fun (key, r) =>
    (readAssignment (r.dropWhile isGap)).bind fun (value, r) =>
      (skipLineEnd r).map fun r => (key.map (Binding.mk · value), r)

def skipLine (s : List Char) : List Char := (s.dropWhile (!isBreak ·)).drop 1

/-- The bindings of a text, at most `fuel` lines of it. A line that cannot be read is skipped from
where reading failed. -/
def readLines : (fuel : Nat) → List Char → List Binding
  | 0, _ => []
  | fuel + 1, s =>
    match s.dropWhile isSpacing with
    | [] => []
    | s =>
      match readLine s with
      | .ok (some b, r) => b :: readLines fuel r
      | .ok (none, r) => readLines fuel r
      | .error r => readLines fuel (skipLine r)

/-- The bindings of a file. Each line takes a character at least, so the length suffices as fuel. -/
def bindings (file : String) : List Binding :=
  let s := plainBreaks file.toList
  readLines (s.length + 1) (if s.head? = some '\ufeff' then s.drop 1 else s)

/-- A reference behind a dollar sign: a name in braces, with a default behind `:-` perhaps. -/
def reference? (s : List Char) : Option (String × List Char × List Char) :=
  let name := s.takeWhile fun c => c ≠ '}' ∧ c ≠ ':'
  match s.drop name.length with
  | '}' :: r => some (String.ofList name, [], r)
  | ':' :: '-' :: r =>
    match r.dropWhile (· ≠ '}') with
    | _ :: rest => some (String.ofList name, r.takeWhile (· ≠ '}'), rest)
    | [] => none
  | _ => none

/-- A value with its references resolved, at most `fuel` characters of it. -/
def expand (lookup : String → Option (List Char)) : (fuel : Nat) → List Char → List Char
  | 0, s => s
  | fuel + 1, s =>
    match s with
    | [] => []
    | '$' :: '{' :: r =>
      match reference? r with
      | some (name, absent, rest) => (lookup name).getD absent ++ expand lookup fuel rest
      | none => '$' :: expand lookup fuel ('{' :: r)
    | c :: r => c :: expand lookup fuel r

/-- What a name stands for: the last value of an earlier line, then the environment. A key without a
value stands for nothing, even if the environment has it. -/
def lookup (environment : Entries String String) (earlier : Entries String (Option (List Char)))
    (name : String) : Option (List Char) :=
  match earlier.get? name with
  | some v => some (v.getD [])
  | none => (environment.get? name).map String.toList

/-- The keys of a file with their expanded values: of a repeated key the first place and the last
value. -/
def values (environment : Entries String String) (file : String) : Entries String (Option String) :=
  let step (es : Entries String (Option (List Char))) (b : Binding) :=
    es.put b.key (b.value.map fun v => expand (lookup environment es) v.length v)
  ((bindings file).foldl step []).map fun (k, v) => (k, v.map String.ofList)

end Courier.EnvFile
