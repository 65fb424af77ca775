import Courier.Json.Literal
import Courier.Log.Entry
import Courier.Metadata.Scope
import Courier.Request
import Courier.Text.Lower

/-! Binders: they write metadata into the headers of a request. The storage service gives names back
in another case than they were sent in, so names are always lower-cased first. -/

namespace Courier.Metadata

/-- A binder of a stem that all its headers start with. -/
structure Binder where
  stem : List Char
  mode : Mode
  deriving DecidableEq, Repr

/-- What a binder is asked to write: a mapping, whose keys may be anything, or some other value. -/
inductive Offered where
  | mapping (entries : List (Json × Json))
  | other (value : Json)
  deriving Repr

/-- A mapping built pair by pair: of equal keys the first place and the last value remain. -/
def Offered.ofPairs (ps : List (Json × Json)) : Offered :=
  .mapping (Entries.ofPairsBy Json.same ps)

/-- A value as it is: an object is a mapping. -/
def Offered.ofJson : Json → Offered
  | .obj es => .mapping (es.map fun (k, v) => (.str k, v))
  | v => .other v

/-- Why a binder refuses its arguments. -/
inductive ArgumentFault where
  | noRequest
  | notMapping (kind : String)
  | badEntry (key value : Json)
  deriving Repr

def ArgumentFault.message : ArgumentFault → String
  | noRequest => "request must not be None"
  | notMapping k => "metadata must be a mapping of str to str, got " ++ k
  | badEntry k v =>
    "metadata must be a mapping of str to str, got " ++ k.literal ++ ": " ++ v.literal

/-- The value that a removed header carries; only its name counts. -/
def removalValue : String := "ignored"

namespace Binder

def ofStem (stem : String) (mode : Mode := .set) : Binder := ⟨lower stem.toList, mode⟩

def ofScope (scope : Scope) (mode : Mode := .set) : Binder := .ofStem scope.stem mode

/-- The entries of a mapping of text to text; otherwise the first entry that is none. -/
def textEntries : List (Json × Json) → Except ArgumentFault (List (String × String))
  | [] => .ok []
  | (.str k, .str v) :: es => (textEntries es).map ((k, v) :: ·)
  | (k, v) :: _ => .error (.badEntry k v)

def checkMetadata : Offered → Except ArgumentFault (List (String × String))
  | .mapping es => textEntries es
  | .other v => .error (.notMapping v.kindName)

/-- A key in lower case behind the stem, unless it has the stem already. -/
def headerKey (b : Binder) (key : String) : List Char :=
  let k := lower key.toList
  if b.stem.isPrefixOf k then k else b.stem ++ k

/-- The header for an entry. To remove one, `x-remove` takes the place of the first character. -/
def header (b : Binder) (entry : String × String) : Header :=
  let key := b.headerKey entry.1
  match b.mode with
  | .set => (String.ofList key, entry.2)
  | .remove => (String.ofList ("x-remove".toList ++ key.drop 1), removalValue)

def headers (b : Binder) (entries : List (String × String)) : List Header := entries.map b.header

/-- What is logged when headers were bound. -/
def boundEntry (b : Binder) (count : Nat) : Log.Entry :=
  .about .metadataBind .debug "Metadata bound to headers"
    [("prefix", .str (String.ofList b.stem)), ("mode", .str b.mode.value), ("headers", .int count)]

variable {ε η : Type}

/-- A copy of a request whose headers are the metadata, and what is logged about it. -/
def bind (b : Binder) (request : Option (HttpRequest ε η)) (metadata : Offered) :
    Except ArgumentFault (HttpRequest ε × Log.Entry) :=
  match request with
  | none => .error .noRequest
  | some r => (checkMetadata metadata).map fun es =>
    (r.replaceHeaders (b.headers es), b.boundEntry es.length)

/-- The written form of a binder. -/
def describe (b : Binder) : String :=
  "MetadataHeaderBinder(prefix=" ++ String.ofList (quoteChars b.stem) ++ ", mode='" ++
    b.mode.value ++ "')"

end Binder

end Courier.Metadata
