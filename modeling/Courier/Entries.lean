/-! Dictionaries that keep the order in which their keys were first put. -/

namespace Courier

/-- Keys with their values, in the order in which the keys came. -/
abbrev Entries (κ ν : Type) := List (κ × ν)

namespace Entries

variable {κ ν : Type}

/-- Puts a value under a key. A key already there keeps its place and its spelling. -/
def putBy (same : κ → κ → Bool) (es : Entries κ ν) (k : κ) (v : ν) : Entries κ ν :=
  if es.any (same k ·.1) then es.map fun e => if same k e.1 then (e.1, v) else e
  else es ++ [(k, v)]

def put [BEq κ] (es : Entries κ ν) (k : κ) (v : ν) : Entries κ ν := es.putBy (· == ·) k v

/-- Puts a value under a key that is not there yet. -/
def putNew [BEq κ] (es : Entries κ ν) (k : κ) (v : ν) : Entries κ ν :=
  if es.any (k == ·.1) then es else es ++ [(k, v)]

def get? [BEq κ] (es : Entries κ ν) (k : κ) : Option ν := (es.find? (k == ·.1)).map (·.2)

def has [BEq κ] (es : Entries κ ν) (k : κ) : Bool := es.any (k == ·.1)

def remove [BEq κ] (es : Entries κ ν) (k : κ) : Entries κ ν := es.filter fun e => !(k == e.1)

/-- Puts pairs one after another: of a repeated key the first place and the last value remain. -/
def ofPairsBy (same : κ → κ → Bool) (ps : List (κ × ν)) : Entries κ ν :=
  ps.foldl (fun es p => es.putBy same p.1 p.2) []

def ofPairs [BEq κ] (ps : List (κ × ν)) : Entries κ ν := ofPairsBy (· == ·) ps

/-- Puts all entries of `more` after those of `es`. -/
def update [BEq κ] (es more : Entries κ ν) : Entries κ ν :=
  more.foldl (fun es p => es.put p.1 p.2) es

end Entries

end Courier
