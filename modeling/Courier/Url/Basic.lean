import Courier.Text.Quoted
import Courier.Text.ScriptDigit
import Courier.Text.Blank
import Courier.Url.International
import Courier.Url.Percent

/-! URLs: their parts, what may be wrong with them, and their normal form. -/

namespace Courier

namespace Url

inductive Fault where
  | tooLong
  | unprintable (c : Char) (position : Nat)
  | badPort (text : String)
  | badAddress4 (host : String)
  | badAddress6 (host : String)
  | badName (host : String)
  | relativeSlashes
  | relativeColon
  deriving DecidableEq, Repr

def Fault.message : Fault → String
  | tooLong => "URL too long"
  | unprintable c i =>
    "Invalid non-printable ASCII character in URL, " ++ quoted c.toString ++ " at position " ++
      toString i ++ "."
  | badPort t => "Invalid port: " ++ quoted t
  | badAddress4 h => "Invalid IPv4 address: " ++ quoted h
  | badAddress6 h => "Invalid IPv6 address: " ++ quoted h
  | badName h => "Invalid IDNA hostname: " ++ quoted h
  | relativeSlashes => "Relative URLs cannot have a path starting with '//'"
  | relativeColon => "Relative URLs cannot have a path starting with ':'"

/-- The parts of a URL as they are written. -/
structure RawParts where
  scheme : List Char
  authority : List Char
  path : List Char
  query : Option (List Char)
  fragment : Option (List Char)
  deriving Repr

def isSchemeChar (c : Char) : Bool := c.isAlphanum || c == '+' || c == '.' || c == '-'

/-- What stands before the first colon, if it can be a scheme, and what follows. -/
def splitScheme (s : List Char) : List Char × List Char :=
  let name := s.takeWhile isSchemeChar
  match s.dropWhile isSchemeChar with
  | ':' :: r => if name.isEmpty || (name.head?.map Char.isAlpha).getD false then (name, r) else ([], s)
  | _ => ([], s)

def splitAuthority (s : List Char) : List Char × List Char :=
  match s with
  | '/' :: '/' :: r =>
    let ends (c : Char) : Bool := c == '/' || c == '?' || c == '#'
    (r.takeWhile (!ends ·), r.dropWhile (!ends ·))
  | _ => ([], s)

/-- The text before a mark, and the text behind it if the mark is there. -/
def splitMark (mark : Char) (s : List Char) : List Char × Option (List Char) :=
  match s.dropWhile (· ≠ mark) with
  | [] => (s.takeWhile (· ≠ mark), none)
  | _ :: r => (s.takeWhile (· ≠ mark), some r)

/-- The query stands between the first question mark and the first number sign. -/
def split (s : List Char) : RawParts :=
  let (scheme, r) := splitScheme s
  let (authority, r) := splitAuthority r
  let (body, fragment) := splitMark '#' r
  let (path, query) := splitMark '?' body
  ⟨scheme, authority, path, query, fragment⟩

/-- Everything before the last at sign, the host (in brackets, or up to a colon), and the port. -/
def splitHost (authority : List Char) : List Char × List Char × List Char :=
  let behind := (authority.reverse.takeWhile (· ≠ '@')).reverse
  let user := (authority.take (authority.length - behind.length)).dropLast
  let closing := behind.length - (behind.reverse.takeWhile (· ≠ ']')).length
  let (host, r) :=
    if behind.head? = some '[' ∧ 0 < closing then (behind.take closing, behind.drop closing)
    else (behind.takeWhile (· ≠ ':'), behind.dropWhile (· ≠ ':'))
  match r with
  | ':' :: port => (user, host, port)
  | port => (user, host, port)

/-- The ASCII characters with a visible form, less some. -/
def visibleBut (excluded : String) (c : Char) : Bool :=
  '!' ≤ c && c ≤ '~' && !excluded.toList.contains c

def keepInPath (c : Char) : Bool := visibleBut "\"#<>?\x60\x7b\x7d" c

def keepInQuery (c : Char) : Bool := visibleBut "\"#<>" c

def keepInFragment (c : Char) : Bool := visibleBut "\"<>\x60" c

def keepInUser (c : Char) : Bool := visibleBut "\"#<>?\x60\x7b\x7d/;=@[\\]^|" c

def keepInHost (c : Char) : Bool :=
  isUnreserved c || "!$&'()*+,;=\"\x60\x7b\x7d%|\\".toList.contains c

def encodeHost (host : List Char) : Except Fault (List Char) :=
  if host.isEmpty then .ok []
  else if looksNumeric host then
    if isAddress4 host then .ok host else .error (.badAddress4 (String.ofList host))
  else if host.head? = some '[' ∧ host.getLast? = some ']' then
    let inner := (host.drop 1).dropLast
    if isAddress6 inner then .ok inner else .error (.badAddress6 (String.ofList host))
  else if host.all (·.toNat < 128) then .ok (escape keepInHost (host.map Char.toLower))
  else match asciiHost? host with
    | some h => .ok h
    | none => .error (.badName (String.ofList host))

/-- The digits of an integer in any script, with single underscores between them. -/
def scriptDigits? : List Char → Option (List Nat)
  | [] => none
  | [c] => (scriptDigit? c).map ([·])
  | c :: '_' :: r => do
    let d ← scriptDigit? c
    let ds ← scriptDigits? r
    some (d :: ds)
  | c :: r => do
    let d ← scriptDigit? c
    let ds ← scriptDigits? r
    some (d :: ds)

/-- An integer with a sign and spacing around it. -/
def portNumber? (s : List Char) : Option Int :=
  let t := stripBy isSpacing s
  let (negative, r) := match t with
    | '-' :: r => (true, r)
    | '+' :: r => (false, r)
    | r => (false, r)
  match scriptDigits? r with
  | some ds =>
    if 4300 < ds.length then none
    else
      let n : Nat := ds.foldl (fun n d => 10 * n + d) 0
      some (if negative then -(n : Int) else n)
  | none => none

def defaultPort? (scheme : List Char) : Option Int :=
  match String.ofList scheme with
  | "ftp" => some 21
  | "http" => some 80
  | "https" => some 443
  | "ws" => some 80
  | "wss" => some 443
  | _ => none

/-- The port, unless it is empty or the one that the scheme has anyway. -/
def normalPort (scheme port : List Char) : Except Fault (Option Int) :=
  if port.isEmpty then .ok none
  else match portNumber? port with
    | some n => .ok (if defaultPort? scheme = some n then none else some n)
    | none => .error (.badPort (String.ofList port))

/-- A path without the segments `.` and `..`. -/
def normalPath (path : List Char) : List Char :=
  let segments := splitAt '/' path
  if !segments.contains ['.'] && !segments.contains ['.', '.'] then path
  else
    let kept := segments.foldl (fun out s =>
      if s == ['.'] then out
      else if s == ['.', '.'] then
        if out.isEmpty || out == [[]] then out else out.dropLast
      else out ++ [s]) []
    (kept.intersperse ['/']).flatten

end Url

/-- A URL in normal form: every part in ASCII. -/
structure Url where
  scheme : List Char
  user : List Char
  host : List Char
  port : Option Int
  path : List Char
  query : Option (List Char)
  fragment : Option (List Char)
  deriving DecidableEq, Repr

namespace Url

/-- The first ASCII character without a visible form, and where it stands. -/
def unprintableAt? : Nat → List Char → Option (Char × Nat)
  | _, [] => none
  | i, c :: r => if c < ' ' ∨ c = '\x7f' then some (c, i) else unprintableAt? (i + 1) r

def ofChars? (s : List Char) : Except Fault Url :=
  if 65536 < s.length then .error .tooLong
  else match unprintableAt? 0 s with
    | some (c, i) => .error (.unprintable c i)
    | none => do
      let raw := split s
      let (user, host, port) := splitHost raw.authority
      let user := escape keepInUser user
      let host ← encodeHost host
      let port ← normalPort raw.scheme port
      let hasAuthority := !user.isEmpty || !host.isEmpty || port.isSome
      let absolute := !raw.scheme.isEmpty || hasAuthority
      if !absolute && raw.path.take 2 == ['/', '/'] then .error .relativeSlashes
      else if !absolute && raw.path.head? == some ':' then .error .relativeColon
      else
        let path := if absolute then normalPath raw.path else raw.path
        .ok ⟨raw.scheme.map Char.toLower, user, host, port, escape keepInPath path,
          raw.query.map (escape keepInQuery), raw.fragment.map (escape keepInFragment)⟩

def ofString? (s : String) : Except Fault Url := ofChars? s.toList

def authority (u : Url) : List Char :=
  (if u.user.isEmpty then [] else u.user ++ ['@']) ++
    (if u.host.contains ':' then '[' :: (u.host ++ [']']) else u.host) ++
    (match u.port with
      | some n => ':' :: intDigits n
      | none => [])

def toChars (u : Url) : List Char :=
  (if u.scheme.isEmpty then [] else u.scheme ++ [':']) ++
    (if u.authority.isEmpty then [] else '/' :: '/' :: u.authority) ++ u.path ++
    (match u.query with
      | some q => '?' :: q
      | none => []) ++
    (match u.fragment with
      | some f => '#' :: f
      | none => [])

end Url

end Courier
