import Courier.Number.Shortest

/-! Counters of requests and retries, and how long requests took. -/

namespace Courier.Service

/-- What a measurement belongs to. -/
structure Label where
  target : String
  method : String
  endpoint : String
  deriving DecidableEq, Repr

/-- A request that ended: with which status, after how many seconds. -/
structure Measurement where
  label : Label
  status : String
  seconds : Double
  deriving DecidableEq, Repr

/-- A retry and the class of the failure that caused it. -/
structure Retry where
  label : Label
  cause : String
  deriving DecidableEq, Repr

/-- Everything measured, the latest last. -/
structure Metrics where
  requests : List Measurement := []
  retries : List Retry := []
  deriving Repr

/-- How often each member of a list occurs, the members by the order `before`. -/
def tally {α : Type} [DecidableEq α] (before : α → α → Bool) (xs : List α) : List (α × Nat) :=
  (xs.eraseDups.mergeSort before).map fun x => (x, xs.count x)

/-- Texts in order: the first in which they differ decides. -/
def textsBefore : List String → List String → Bool
  | [], _ => true
  | _ :: _, [] => false
  | a :: as, b :: bs => decide (a < b) || (a == b && textsBefore as bs)

def Label.texts (l : Label) : List String := [l.target, l.method, l.endpoint]

/-- The upper bounds of the duration buckets; the last one has none. -/
def bucketBounds : List Rat := [1/100, 1/20, 1/10, 1/4, 1/2, 1, 5/2, 5, 10]

/-- The durations of a label: how many lie below each bound, how many below any, and their sum. -/
structure Histogram where
  below : List (Double × Nat)
  count : Nat
  sum : Double
  deriving DecidableEq, Repr

def Histogram.of (xs : List Double) : Histogram where
  below := (bucketBounds.map Double.ofRat ++ [Double.infinite false]).map fun b =>
    (b, xs.countP (·.le b))
  count := xs.countP (·.le (.infinite false))
  sum := xs.foldl Double.add .zero

namespace Metrics

def measure (m : Metrics) (x : Measurement) : Metrics := { m with requests := m.requests ++ [x] }

def retry (m : Metrics) (x : Retry) : Metrics := { m with retries := m.retries ++ [x] }

/-- How many requests of each label ended with each status. -/
def requestCounts (m : Metrics) : List ((Label × String) × Nat) :=
  tally (fun a b => textsBefore (a.1.texts ++ [a.2]) (b.1.texts ++ [b.2]))
    (m.requests.map fun x => (x.label, x.status))

/-- How many retries of each label each class of failure caused. -/
def retryCounts (m : Metrics) : List ((Label × String) × Nat) :=
  tally (fun a b => textsBefore (a.1.texts ++ [a.2]) (b.1.texts ++ [b.2]))
    (m.retries.map fun x => (x.label, x.cause))

def durationsOf (m : Metrics) (l : Label) : List Double :=
  (m.requests.filter (·.label = l)).map (·.seconds)

def histograms (m : Metrics) : List (Label × Histogram) :=
  ((m.requests.map (·.label)).eraseDups.mergeSort fun a b => textsBefore a.texts b.texts).map fun l =>
    (l, .of (m.durationsOf l))

end Metrics

end Courier.Service
