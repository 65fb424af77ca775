import Courier.Number.Decimal
import Courier.Text.Hex

/-! Numeric host addresses. -/

namespace Courier.Url

/-- The parts of a text between the characters `c`. -/
def splitAt (c : Char) (s : List Char) : List (List Char) :=
  s.foldr (fun d parts =>
    if d = c then [] :: parts
    else match parts with
      | p :: ps => (d :: p) :: ps
      | [] => [[d]]) [[]]

/-- A number up to 255 without leading zeros. -/
def isOctet (s : List Char) : Bool :=
  !s.isEmpty && s.all isDigit && s.length ≤ 3 && (s == ['0'] || s.head? != some '0') &&
    ofDigits s ≤ 255

def isAddress4 (s : List Char) : Bool :=
  let parts := splitAt '.' s
  parts.length == 4 && parts.all isOctet

/-- Up to four hexadecimal digits. -/
def isGroup (s : List Char) : Bool :=
  !s.isEmpty && s.length ≤ 4 && s.all fun c => (hexValue? c).isSome

/-- Eight groups, of which one run of zeros may be left out between two colons. An address of the
older kind may stand for the last two groups. -/
def isGroups (s : List Char) : Bool :=
  let parts := splitAt ':' s
  let last := parts.getLast?.getD []
  let tailed := last.contains '.'
  let parts := if tailed then parts.dropLast ++ [['0'], ['0']] else parts
  let inner := (parts.drop 1).dropLast
  let gaps := (inner.filter (·.isEmpty)).length
  let gap := inner.findIdx (·.isEmpty) + 1
  let front := parts.take gap
  let back := parts.drop (gap + 1)
  let side (ps : List (List Char)) : Option Nat :=
    if ps == [[]] then some 0 else if ps.all isGroup then some ps.length else none
  3 ≤ (splitAt ':' s).length && (!tailed || isAddress4 last) && parts.length ≤ 9 &&
    (if gaps = 0 then parts.length == 8 && parts.all isGroup
    else gaps == 1 &&
      match side front, side back with
      | some m, some n => m + n < 8
      | _, _ => false)

/-- Groups, and a zone behind a percent sign. -/
def isAddress6 (s : List Char) : Bool :=
  let address := s.takeWhile (· ≠ '%')
  let zone := s.dropWhile (· ≠ '%')
  !s.contains '/' && isGroups address &&
    (zone.isEmpty || (1 < zone.length && !(zone.drop 1).contains '%'))

/-- Where a host stands in a numeric shape: how many separators are still to come, and whether a run
of digits has begun. -/
abbrev ShapeState := Nat × Bool

/-- The places a character leads to. Any character may be a separator, a digit too. -/
def shapeStep (states : List ShapeState) (c : Char) : List ShapeState :=
  (states.flatMap fun (n, begun) =>
    (if isDigit c then [(n, true)] else []) ++ (if begun && 0 < n then [(n - 1, false)] else []))
    |>.eraseDups

/-- Four runs of digits with one character of any kind between them: a host that is taken for a
numeric address. -/
def looksNumeric (s : List Char) : Bool := (s.foldl shapeStep [(3, false)]).contains (0, true)

end Courier.Url
