import Courier.Shape.Model

/-! Request templates that binders fill and clients send. -/

namespace Courier

/-- A header name and its value. -/
abbrev Header := String × String

/-- A request to send: what it asks of which endpoint, with headers in order. A kind of request may
have further fields of its own, and whoever replaces the headers decides what a header is. -/
structure HttpRequest (ε : Type := Unit) (η : Type := Header) where
  method : String
  endpoint : String
  headers : List η := []
  params : Option (Entries String Json) := none
  payload : Json := .null
  more : ε

namespace HttpRequest

variable {ε η θ : Type}

/-- A copy with other headers. -/
def replaceHeaders (r : HttpRequest ε η) (hs : List θ) : HttpRequest ε θ :=
  { r with headers := hs }

/-- A pair of texts in an array of exactly two. -/
def checkHeader (v : Json) : Checked Header :=
  let part (i : Nat) (x : Option Json) : Checked String :=
    .under (.index i) (match x with
      | some x => checkText x
      | none => .fault .missing)
  (Checked.items .tupleType v).bind fun xs =>
    if 2 < xs.length then .fault .tooLong
    else ((part 0 xs[0]?).map Prod.mk).and (part 1 xs[1]?)

def checkParams : Json → Checked (Option (Entries String Json))
  | .null => .ok none
  | .obj es => .ok (some es)
  | _ => .fault .dictType

/-- A request whose own fields `more` reads. -/
def checkWith (more : Entries String Json → Checked ε) (v : Json) : Checked (HttpRequest ε) :=
  (Checked.entries v).bind fun es =>
    (((((Checked.required es "method" checkText).map
      (fun m e h ps b x => HttpRequest.mk m e h ps b x)).and
      (.required es "endpoint" checkText)).and
      (.optional es "headers" [] (.listOf .tupleType checkHeader))).and
      (.optional es "params" none checkParams)).and
      (.optional es "payload" .null .ok) |>.and (more es)

def headerJson (h : Header) : Json := .arr [.str h.1, .str h.2]

/-- The object of a request, given its headers and its own fields as JSON. -/
def toJsonWith (header : η → Json) (more : ε → Entries String Json) (r : HttpRequest ε η) : Json :=
  .obj ([("method", .str r.method), ("endpoint", .str r.endpoint),
    ("headers", .arr (r.headers.map header)),
    ("params", (r.params.map Json.obj).getD .null), ("payload", r.payload)] ++ more r.more)

instance : Model (HttpRequest Unit) where
  title := "HttpRequest"
  check := checkWith fun _ => .ok ()
  toJson := toJsonWith headerJson fun _ => []

end HttpRequest

end Courier
