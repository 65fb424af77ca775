import Courier.Url.Basic

/-! Query parameters: name and value pairs, read as forms are. -/

namespace Courier.Url

/-- A plus sign stands for a space. -/
def plusToSpace (s : List Char) : List Char := s.map fun c => if c = '+' then ' ' else c

/-- A field with the escapes undone. -/
def formField (s : List Char) : List Char := unescape (plusToSpace s)

/-- A pair: the first equals sign divides name and value; without one the value is empty. -/
def formPair (s : List Char) : List Char × List Char :=
  let (name, value) := splitMark '=' s
  (formField name, formField (value.getD []))

/-- The pairs of a query, in order; nothing between two ampersands is no pair. -/
def formPairs (query : List Char) : List (List Char × List Char) :=
  ((splitAt '&' query).filter (!·.isEmpty)).map formPair

/-- The value of the first parameter of a name in a URL. -/
def parameter? (url name : String) : Except Fault (Option String) := do
  let u ← ofString? url
  let pairs := formPairs (u.query.getD [])
  .ok ((pairs.find? (·.1 == name.toList)).map fun p => String.ofList p.2)

end Courier.Url
