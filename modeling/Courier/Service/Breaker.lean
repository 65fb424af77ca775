import Courier.Number.Double

/-! The circuit breaker: it counts recorded failures, and opens when there are too many. -/

namespace Courier.Service

/-- An instant or a span in microseconds. Instants count from the start of 2024. -/
abbrev Micros := Int

/-- The microseconds of a number of seconds: whole seconds exactly, the fraction rounded. -/
def microsOf? (seconds : Double) : Option Micros :=
  seconds.toRat?.map fun q =>
    let whole := truncate q
    let part := Double.ofRat ((q - whole) * 1000000)
    whole * 1000000 + roundHalfEven (part.toRat?.getD 0)

/-- The longest span: less than a thousand million days. -/
def longestSpan : Micros := 86400000000 * 1000000000

/-- The calendar ends with the year 9999 and begins with the year 1. -/
def lastInstant : Micros := 86400000000 * (3652059 - 738886 + 1) - 1

def firstInstant : Micros := -(86400000000 * (738886 - 1))

/-- The instant a number of seconds after another, if the calendar has it. -/
def later? (since : Micros) (seconds : Double) : Option Micros :=
  match microsOf? seconds with
  | some d =>
    if -longestSpan < d ∧ d < longestSpan ∧ firstInstant ≤ since + d ∧ since + d ≤ lastInstant then
      some (since + d)
    else none
  | none => none

inductive Gate where
  | closed
  /-- Open since an instant. -/
  | opened (since : Micros)
  /-- Rested: one call is let through, and its end decides. -/
  | halfOpen
  deriving DecidableEq, Repr

structure Breaker where
  failMax : Int
  resetTimeout : Double
  gate : Gate := .closed
  failures : Nat := 0
  deriving DecidableEq, Repr

/-- What comes of recording a failure. -/
inductive Recording where
  /-- It was counted, and the breaker did not open. -/
  | counted
  /-- It was counted and opened the breaker, or opened it anew. -/
  | opening
  /-- The breaker was open, so it was not counted. -/
  | refused
  /-- The calendar does not have the instant of an opening or of the end of a rest. -/
  | undated
  deriving DecidableEq, Repr

namespace Breaker

def isOpen (b : Breaker) : Bool :=
  match b.gate with
  | .opened _ => true
  | .closed | .halfOpen => false

def stateName (b : Breaker) : String :=
  match b.gate with
  | .closed => "closed"
  | .opened _ => "open"
  | .halfOpen => "half-open"

/-- One more failure. -/
def count (b : Breaker) : Breaker := { b with failures := b.failures + 1 }

/-- Opens the breaker from now on. Without an instant it stays as it is. -/
def trip (b : Breaker) : (now : Option Micros) → Recording × Breaker
  | some t => (.opening, { b with gate := .opened t })
  | none => (.undated, b)

/-- What a call finds: a breaker that is open refuses it until its rest is over, and is half open
from then on. -/
def letIn (b : Breaker) (now : Option Micros) : Except Recording Breaker :=
  match b.gate with
  | .closed | .halfOpen => .ok b
  | .opened since =>
    match now, later? since b.resetTimeout with
    | some t, some rested =>
      if t < rested then .error .refused else .ok { b with gate := .halfOpen }
    | _, _ => .error .undated

/-- A call that was let through has failed. One failure opens a breaker that is half open; a closed
one opens when there are too many. -/
def fail (b : Breaker) (now : Option Micros) : Recording × Breaker :=
  match b.gate with
  | .closed => if b.failMax ≤ b.count.failures then b.count.trip now else (.counted, b.count)
  | .halfOpen => b.count.trip now
  | .opened _ => (.counted, b.count)

/-- Records a failure, as a call that does nothing but fail. -/
def record (b : Breaker) (now : Option Micros) : Recording × Breaker :=
  match b.letIn now with
  | .ok b => b.fail now
  | .error r => (r, b)

end Breaker

end Courier.Service
