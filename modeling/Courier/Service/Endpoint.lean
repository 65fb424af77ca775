/-! Endpoints as metric labels: names and ids in them are replaced by what they name. -/

namespace Courier.Service

def isSlash (c : Char) : Bool := c == '/'

/-- The name behind `/queues/` at the front becomes a placeholder. -/
def collapseQueue (s : List Char) : List Char :=
  let front := "/queues/".toList
  let r := s.drop front.length
  if front.isPrefixOf s && !(r.takeWhile (!isSlash ·)).isEmpty then
    "/queues/\x7bname\x7d".toList ++ r.dropWhile (!isSlash ·)
  else s

/-- A message id ends before a slash or a query. -/
def isIdChar (c : Char) : Bool := !(c == '/' || c == '?')

/-- Each id behind `/messages/` becomes a placeholder; `skip` characters of the last match are still
to be left out. -/
def collapseIds : (skip : Nat) → List Char → List Char
  | _, [] => []
  | skip + 1, _ :: r => collapseIds skip r
  | 0, c :: r =>
    let front := "/messages/".toList
    if front.isPrefixOf (c :: r) then
      let id := ((c :: r).drop front.length).takeWhile isIdChar
      if id.isEmpty then c :: collapseIds 0 r
      else "/messages/\x7bid\x7d".toList ++ collapseIds (front.length - 1 + id.length) r
    else c :: collapseIds 0 r

/-- What a line feed at the end leaves when all before it has been replaced. -/
def endOfLine? (s : List Char) : Option (List Char) :=
  match s with
  | [] => some []
  | ['\n'] => some ['\n']
  | _ => none

/-- A path of two levels or more on one line becomes two placeholders. A line feed may end it. -/
def collapseObject (s : List Char) : List Char :=
  match s with
  | '/' :: r =>
    let container := r.takeWhile (!isSlash ·)
    let name := (r.dropWhile (!isSlash ·)).drop 1
    if container.isEmpty || (name.takeWhile (· ≠ '\n')).isEmpty then s
    else
      match endOfLine? (name.dropWhile (· ≠ '\n')) with
      | some tail => "/\x7bcontainer\x7d/\x7bobject\x7d".toList ++ tail
      | none => s
  | _ => s

/-- A path of one level without an opening brace becomes a placeholder. -/
def collapseContainer (s : List Char) : List Char :=
  match s with
  | '/' :: r =>
    if !r.isEmpty && r.all fun c => !(c == '/' || c == '\x7b') then "/\x7bcontainer\x7d".toList else s
  | _ => s

def normalizeChars (s : List Char) : List Char :=
  let s := collapseIds 0 (collapseQueue s)
  let s := if "/queues".toList.isPrefixOf s then s else collapseContainer (collapseObject s)
  if s.isEmpty then ['/'] else s

/-- The label of an endpoint. -/
def normalizeEndpoint (endpoint : String) : String := String.ofList (normalizeChars endpoint.toList)

end Courier.Service
