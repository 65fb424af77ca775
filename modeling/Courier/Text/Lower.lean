import Courier.Text.Casing

/-! Lower-casing of text: one character at a time, except for the capital sigma, which ends a word
in another form, and the dotted capital I, which becomes two characters. -/

namespace Courier

def CaseRun.covers (r : CaseRun) (n : Nat) : Bool :=
  r.first ≤ n && n ≤ r.last && (n - r.first) % r.step == 0

/-- The lower-case form of a character that has one of a single character. -/
def lowerChar (c : Char) : Char :=
  match caseRuns.find? (·.covers c.toNat) with
  | some r => Char.ofNat (c.toNat + r.shift).toNat
  | none => c

def isCased (c : Char) : Bool := casedRanges.holds c

def isCaseIgnorable (c : Char) : Bool := ignorableRanges.holds c

/-- The first character that casing does not look past is a cased one. -/
def casedAhead : List Char → Bool
  | [] => false
  | c :: r => if isCaseIgnorable c then casedAhead r else isCased c

/-- Whether the last character that casing does not look past is cased, one character on. -/
def casedBehind (behind : Bool) (c : Char) : Bool :=
  if isCaseIgnorable c then behind else isCased c

/-- The lower-case form of `c` between a text that `behind` describes and the text `ahead`. -/
def lowerInContext (behind : Bool) (c : Char) (ahead : List Char) : List Char :=
  if c = 'Σ' then [if behind && !casedAhead ahead then 'ς' else 'σ']
  else if c = 'İ' then ['i', '\u0307']
  else [lowerChar c]

def lowerFrom (behind : Bool) : List Char → List Char
  | [] => []
  | c :: r => lowerInContext behind c r ++ lowerFrom (casedBehind behind c) r

/-- The lower-case form of a text. -/
def lower (s : List Char) : List Char := lowerFrom false s

def lowerText (s : String) : String := String.ofList (lower s.toList)

end Courier
