import Courier.Number.Power

/-! Binary64 numbers with exact rational values, and the arithmetic that rounds to them. -/

namespace Courier

/-- A binary64 number. A finite one is kept as the rational it stands for; zero with a minus sign
is a value of its own. -/
inductive Double where
  | nan
  | infinite (negative : Bool)
  | negativeZero
  | finite (value : Rat)
  deriving DecidableEq, Repr, Inhabited

/-- The quotient to the nearest natural number, a half to the even neighbour. -/
def roundDiv (n d : Nat) : Nat :=
  let q := n / d
  let r := 2 * (n % d)
  if r < d ∨ (r = d ∧ q % 2 = 0) then q else q + 1

/-- The greatest `e` with `2 ^ e ≤ n / d`, for positive `n` and `d`. -/
def floorLog2 (n d : Nat) : Int :=
  let e : Int := (n.log2 : Int) - d.log2
  if d * power 2 e.toNat ≤ n * power 2 (-e).toNat then e else e - 1

/-- The exponent of the last binary place of the numbers about as large as `n / d`. -/
def lastPlace (n d : Nat) : Int :=
  max (floorLog2 n d - 52) (-1074)

/-- `m * 2 ^ e` -/
def scaled (m : Nat) (e : Int) : Rat :=
  if 0 ≤ e then ((m * power 2 e.toNat : Nat) : Rat) else mkRat m (power 2 (-e).toNat)

/-- The magnitude `n / d` in whole units of its last place, ties to even. -/
def significand (n d : Nat) : Nat :=
  let e := lastPlace n d
  roundDiv (n * power 2 (-e).toNat) (d * power 2 e.toNat)

namespace Double

def zero : Double := finite 0

def signedZero (negative : Bool) : Double := if negative then negativeZero else finite 0

/-- The number nearest to the magnitude `n / d`, with the given sign. -/
def ofMagnitude (negative : Bool) (n d : Nat) : Double :=
  let m := significand n d
  let v := scaled m (lastPlace n d)
  if n = 0 ∨ m = 0 then signedZero negative
  else if (power 2 1024 : Nat) ≤ v then infinite negative
  else finite (if negative then -v else v)

/-- The number nearest to a rational. -/
def ofRat (q : Rat) : Double := ofMagnitude (decide (q < 0)) q.num.natAbs q.den

def ofInt (n : Int) : Double := ofMagnitude (decide (n < 0)) n.natAbs 1

/-- The value of a finite number. -/
def toRat? : Double → Option Rat
  | nan => none
  | infinite _ => none
  | negativeZero => some 0
  | finite q => some q

def isNegative : Double → Bool
  | nan => false
  | infinite s => s
  | negativeZero => true
  | finite q => decide (q < 0)

def isFinite (x : Double) : Bool := x.toRat?.isSome

def neg : Double → Double
  | nan => nan
  | infinite s => infinite (!s)
  | negativeZero => finite 0
  | finite q => if q = 0 then negativeZero else finite (-q)

def add : Double → Double → Double
  | nan, _ => nan
  | _, nan => nan
  | infinite s, infinite t => if s = t then infinite s else nan
  | infinite s, _ => infinite s
  | _, infinite t => infinite t
  | negativeZero, negativeZero => negativeZero
  | negativeZero, finite b => ofRat b
  | finite a, negativeZero => ofRat a
  | finite a, finite b => ofRat (a + b)

def sub (x y : Double) : Double := x.add y.neg

def mul (x y : Double) : Double :=
  let negative := x.isNegative != y.isNegative
  match x.toRat?, y.toRat? with
  | some a, some b => if a * b = 0 then signedZero negative else ofRat (a * b)
  | none, some b => if x = nan ∨ b = 0 then nan else infinite negative
  | some a, none => if y = nan ∨ a = 0 then nan else infinite negative
  | none, none => if x = nan ∨ y = nan then nan else infinite negative

/-- How two numbers compare as real numbers with infinities; nothing compares with `nan`. -/
def order? : Double → Double → Option Ordering
  | nan, _ => none
  | _, nan => none
  | infinite s, infinite t => some (if s = t then .eq else if s then .lt else .gt)
  | infinite s, _ => some (if s then .lt else .gt)
  | _, infinite t => some (if t then .gt else .lt)
  | x, y =>
    let a := x.toRat?.getD 0
    let b := y.toRat?.getD 0
    some (if a < b then .lt else if a = b then .eq else .gt)

def lt (x y : Double) : Bool := order? x y == some .lt

def le (x y : Double) : Bool := order? x y == some .lt || order? x y == some .eq

/-- Equality of values: the two zeros are equal and `nan` is not equal to itself. -/
def sameValue (x y : Double) : Bool := order? x y == some .eq

/-- The greater of two numbers, the first if neither is greater. -/
def maximum (x y : Double) : Double := if x.lt y then y else x

/-- The smaller of two numbers, the first if neither is smaller. -/
def minimum (x y : Double) : Double := if y.lt x then y else x

end Double

/-- The nearest integer, a half to the even neighbour. -/
def roundHalfEven (q : Rat) : Int :=
  let m : Int := roundDiv q.num.natAbs q.den
  if q < 0 then -m else m

/-- The part before the decimal point. -/
def truncate (q : Rat) : Int :=
  if q < 0 then -((q.num.natAbs / q.den : Nat) : Int) else ((q.num.natAbs / q.den : Nat) : Int)

end Courier
