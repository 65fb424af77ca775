import Courier.Number.Decimal

/-! The shortest decimal that reads back as a given double, and its written form. -/

namespace Courier

/-- The greatest `e` with `10 ^ e ≤ n / d`, for positive `n` and `d`. -/
def floorLog10 (n d : Nat) : Int :=
  let low : Int := floorLog2 n d * 30103 / 100000 - 1
  let fits (e : Int) : Bool := d * power 10 e.toNat ≤ n * power 10 (-e).toNat
  if fits (low + 3) then low + 3 else if fits (low + 2) then low + 2
  else if fits (low + 1) then low + 1 else low

/-- The rationals that round to the positive double `v`: the ends of the interval, and whether the
ends belong to it. -/
def roundingInterval (v : Rat) : Rat × Rat × Bool :=
  let e := lastPlace v.num.natAbs v.den
  let m := significand v.num.natAbs v.den
  let half := scaled 1 (e - 1)
  let below := if m = power 2 52 ∧ -1074 < e then scaled 1 (e - 2) else half
  (v - below, v + half, m % 2 = 0)

/-- A decimal `digits * 10 ^ exponent`. -/
structure Decimal where
  digits : Nat
  exponent : Int
  deriving DecidableEq, Repr

def Decimal.toRat (x : Decimal) : Rat :=
  if 0 ≤ x.exponent then ((x.digits * power 10 x.exponent.toNat : Nat) : Rat)
  else mkRat x.digits (power 10 (-x.exponent).toNat)

/-- The neighbours of `v` among the multiples of `10 ^ exponent` that round to `v`, the nearer one
if both do, and of two equally near ones the even one. -/
def nearestOnGrid (v : Rat) (exponent : Int) : Option Decimal :=
  let (lo, hi, closed) := roundingInterval v
  let inside (x : Decimal) : Bool :=
    if closed then lo ≤ x.toRat ∧ x.toRat ≤ hi else lo < x.toRat ∧ x.toRat < hi
  let n := v.num.natAbs * power 10 (-exponent).toNat / (v.den * power 10 exponent.toNat)
  let below : Decimal := ⟨n, exponent⟩
  let above : Decimal := ⟨n + 1, exponent⟩
  if inside below && inside above then
    let down := v - below.toRat
    let up := above.toRat - v
    some (if down < up ∨ (down = up ∧ n % 2 = 0) then below else above)
  else if inside below then some below
  else if inside above then some above
  else none

/-- The decimal of fewest digits that rounds to the positive double `v`, nearest to `v` among those.
Seventeen digits always suffice. -/
def shortestDecimal (v : Rat) : Decimal :=
  let top := floorLog10 v.num.natAbs v.den
  ((List.range 17).findSome? fun (k : Nat) => nearestOnGrid v (top - k)).getD ⟨0, 0⟩

/-- Digits and the exponent of the first one, without trailing zeros. -/
def Decimal.scientific (x : Decimal) : List Char × Int :=
  let ds := natDigits x.digits
  let kept := (ds.reverse.dropWhile (· = '0')).reverse
  (kept, x.exponent + ds.length - 1)

/-- The exponent of a number in scientific notation: a sign and at least two digits. -/
def exponentDigits (e : Int) : List Char :=
  let ds := natDigits e.natAbs
  (if e < 0 then '-' else '+') :: (if ds.length < 2 then '0' :: ds else ds)

/-- Positional notation for exponents from -4 to 15, with at least one place after the point;
scientific notation for the others. -/
def layout (ds : List Char) (e : Int) : List Char :=
  if -4 ≤ e ∧ e < 16 then
    if e < 0 then '0' :: '.' :: (List.replicate (-e - 1).toNat '0' ++ ds)
    else
      let whole := e.toNat + 1
      let front := ds.take whole ++ List.replicate (whole - ds.length) '0'
      let back := ds.drop whole
      front ++ '.' :: (if back.isEmpty then ['0'] else back)
  else
    match ds with
    | [] => []
    | [d] => d :: 'e' :: exponentDigits e
    | d :: rest => d :: '.' :: (rest ++ 'e' :: exponentDigits e)

/-- The written form of a double: the fewest digits that read back as it. -/
def Double.text : Double → String
  | nan => "nan"
  | infinite s => if s then "-inf" else "inf"
  | negativeZero => "-0.0"
  | finite q =>
    if q = 0 then "0.0"
    else
      let v := if q < 0 then -q else q
      let (ds, e) := (shortestDecimal v).scientific
      String.ofList ((if q < 0 then ['-'] else []) ++ layout ds e)

end Courier
