import Courier.Settings.Basic

/-! How a client waits, retries, and guards its service. -/

namespace Courier.Service

structure Config where
  timeout : Double := .finite 30
  connectTimeout : Double := .finite 5
  maxRetries : Int := 3
  retryMinWait : Double := .finite 1
  retryMaxWait : Double := .finite 10
  breakerFailMax : Int := 5
  breakerResetTimeout : Double := .finite 30
  deriving DecidableEq, Repr

/-- The seconds that an HTTP client waits for each part of an exchange. -/
structure Timeouts where
  connect : Double
  read : Double
  write : Double
  pool : Double
  deriving DecidableEq, Repr

namespace Config

def ofSettings (s : Settings) : Config := { timeout := s.timeout, maxRetries := s.maxRetries }

def timeouts (c : Config) : Timeouts := ⟨c.connectTimeout, c.timeout, c.timeout, c.timeout⟩

/-- How often a request is tried at most: once at least. -/
def attempts (c : Config) : Nat := max 1 c.maxRetries.toNat

/-- The wait after the attempt of a number, from one on: it doubles, within the bounds. -/
def waitAfter (c : Config) (attempt : Nat) : Double :=
  (Double.maximum .zero c.retryMinWait).maximum
    ((Double.finite ((power 2 (attempt - 1) : Nat) : Rat)).minimum c.retryMaxWait)

/-- A number of seconds in an argument. -/
def seconds? : Json → Option Double
  | .int n => some (.ofInt n)
  | .bool b => some (.ofInt (if b then 1 else 0))
  | .float x => some x
  | _ => none

/-- A whole number in an argument. -/
def count? : Json → Option Int
  | .int n => some n
  | .bool b => some (if b then 1 else 0)
  | _ => none

/-- Puts the argument of a name into a configuration. -/
def set (c : Config) (name : String) (v : Json) : Except String Config :=
  match name, seconds? v, count? v with
  | "timeout", some x, _ => .ok { c with timeout := x }
  | "connect_timeout", some x, _ => .ok { c with connectTimeout := x }
  | "max_retries", _, some n => .ok { c with maxRetries := n }
  | "retry_min_wait", some x, _ => .ok { c with retryMinWait := x }
  | "retry_max_wait", some x, _ => .ok { c with retryMaxWait := x }
  | "circuit_breaker_fail_max", _, some n => .ok { c with breakerFailMax := n }
  | "circuit_breaker_reset_timeout", some x, _ => .ok { c with breakerResetTimeout := x }
  | _, _, _ =>
    .error ("ClientConfig.__init__() got an unexpected keyword argument '" ++ name ++ "'")

/-- The configuration of named arguments, with the defaults for all others. -/
def ofArguments (arguments : Entries String Json) : Except String Config :=
  arguments.foldlM (fun c (name, v) => c.set name v) {}

end Config

end Courier.Service
