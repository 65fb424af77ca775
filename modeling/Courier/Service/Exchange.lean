import Courier.Json.Literal
import Courier.Json.Reader
import Courier.Request
import Courier.Service.Failure
import Courier.Text.Charset

/-! One call to a service and what comes back of it. -/

namespace Courier.Service

/-- What is asked of the transport. -/
structure Call where
  method : String
  url : String
  headers : List Header
  params : Option (Entries String Json)
  payload : Option Json
  deriving Repr

/-- What a service answers. The phrase is the one sent beside the status, if any; the URL is that of
the request answered, as the library writes it. -/
structure Response where
  status : Int
  headers : List Header := []
  body : Bytes := []
  phrase : Option String := none
  url : String := ""
  deriving DecidableEq, Repr

/-- What the transport makes of a call. -/
inductive Outcome where
  | response (r : Response)
  | failure (f : Failure)
  deriving Repr

/-- What to send to a URL, with all headers of the client and the request. Parameters that are empty
are not passed, nor is a payload of null. -/
def Call.ofRequest {ε : Type} (url : String) (headers : List Header) (r : HttpRequest ε) :
    Call where
  method := r.method
  url := url
  headers := headers
  params := r.params.filter fun ps => !ps.isEmpty
  payload := if r.payload.isNull then none else some r.payload

namespace Response

/-- The values of all headers of the type of the content. -/
def contentType (r : Response) : Option String :=
  match r.headers.filter (·.1.toLower == "content-type") with
  | [] => none
  | hs => some (", ".intercalate (hs.map (·.2)))

/-- The character set that the body is said to be in. -/
def charsetName (r : Response) : Except Trouble (Option String) :=
  match r.contentType with
  | none => .ok none
  | some t => Charset.nameIn? t

/-- The standard phrase for a status of the server's fault. -/
def standardPhrase (status : Int) : String :=
  match status with
  | 500 => "Internal Server Error"
  | 501 => "Not Implemented"
  | 502 => "Bad Gateway"
  | 503 => "Service Unavailable"
  | 504 => "Gateway Timeout"
  | 505 => "HTTP Version Not Supported"
  | 506 => "Variant Also Negotiates"
  | 507 => "Insufficient Storage"
  | 508 => "Loop Detected"
  | 510 => "Not Extended"
  | 511 => "Network Authentication Required"
  | _ => ""

/-- The failure that a response of the server's fault stands for. -/
def serverFailure (r : Response) : Failure :=
  ⟨.httpStatusError r.status,
    "Server error '" ++ toString r.status ++ " " ++ r.phrase.getD (standardPhrase r.status) ++
      "' for url '" ++ r.url ++
      "'\nFor more information check: https://developer.mozilla.org/en-US/docs/Web/HTTP/Status/" ++
      toString r.status⟩

end Response

/-- How the library reads the body of a response: as text, and as a JSON value if it is one. It may
fail at either with a failure of its own. -/
structure Reader where
  text : Response → Except Trouble String
  json : Response → Except Trouble (Option Json)

/-- Character sets without a table here: how bytes are read by them, by their folded names. -/
abbrev OtherSets := String → Option (Bytes → Except Trouble String)

namespace Reader

def tooDeep (inObject : Bool) : Trouble :=
  ⟨"RecursionError",
    "maximum recursion depth exceeded while decoding a JSON " ++
      (if inObject then "object" else "array") ++ " from a unicode string"⟩

/-- Bytes as text, by the set of a name. A set that nobody knows is taken for UTF-8. -/
def decode (others : OtherSets) (name : Option String) (bs : Bytes) : Except Trouble String :=
  match name with
  | none => Charset.utf8.decode bs
  | some name =>
    match Charset.named? name, others (Charset.fold name) with
    | .error t, _ => .error t
    | .ok (some set), _ => set.decode bs
    | .ok none, some read => read bs
    | .ok none, none => Charset.utf8.decode bs

/-- The reader of an interpreter that has so many levels left to enter the JSON of a body, and knows
these other sets. An empty body is an empty text in any set. -/
def standard (levels : Nat := 900) (others : OtherSets := fun _ => none) : Reader where
  text r :=
    if r.body.isEmpty then .ok ""
    else
      match r.charsetName with
      | .ok name => decode others name r.body
      | .error t => .error t
  json r :=
    match Charset.jsonCharacters? r.body with
    | none => .ok none
    | some s =>
      match Json.read ⟨levels, true, 4300⟩ s with
      | .ok v => .ok (some v)
      | .error .malformed => .ok none
      | .error (.tooDeep inObject) => .error (tooDeep inObject)

/-- The keys under which services explain an error, the best one first. -/
def detailKeys : List String := ["description", "detail", "title"]

/-- The text that explains an error, cut to a readable length. -/
def fallbackDetail (text : String) : String :=
  if text.isEmpty then "Unknown error" else String.ofList (text.toList.take 500)

/-- What a response says about the error that it reports. -/
def errorDetail (d : Reader) (r : Response) : Except Trouble String :=
  match d.json r with
  | .error t => .error t
  | .ok v =>
    match detailKeys.findSome? fun k => v.bind (·.get? k) with
    | some detail => .ok detail.display
    | none => (d.text r).map fallbackDetail

end Reader

/-- An outcome after some seconds, and how a body is read then. -/
structure Reply where
  delay : Double := .zero
  outcome : Outcome
  reader : Reader := .standard

/-- What to do after an attempt. -/
inductive Verdict where
  | accept (r : Response)
  | retry (f : Failure)
  | stop (e : ClientError)
  deriving Repr

/-- The verdict on a response. A server's fault is worth another attempt; from status 400 on the
others are reported as they are, if they can be read. -/
def judgeResponse (d : Reader) (r : Response) : Verdict :=
  if 500 ≤ r.status ∧ r.status < 600 then .retry r.serverFailure
  else if 400 ≤ r.status then
    match d.errorDetail r, d.text r with
    | .error t, _ => .stop (.failed (.ofTrouble t))
    | .ok _, .error t => .stop (.failed (.ofTrouble t))
    | .ok detail, .ok text => .stop (.response r.status detail text)
  else .accept r

def judge (p : Reply) : Verdict :=
  match p.outcome with
  | .response r => judgeResponse p.reader r
  | .failure f => if f.kind.retryable then .retry f else .stop (.failed f)

end Courier.Service
