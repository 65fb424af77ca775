import Courier.Number.Double

/-! Decimal digits: reading numerals of digits, and the double nearest to a decimal. -/

namespace Courier

def isDigit (c : Char) : Bool := decide ('0' ≤ c ∧ c ≤ '9')

def digitValue (c : Char) : Nat := c.toNat - '0'.toNat

/-- The number written by a list of decimal digits; the empty list writes zero. -/
def ofDigits (ds : List Char) : Nat := ds.foldl (fun n c => 10 * n + digitValue c) 0

/-- The digits at the front of a text, and the rest. -/
def spanDigits (s : List Char) : List Char × List Char := (s.takeWhile isDigit, s.dropWhile isDigit)

def digitChar (n : Nat) : Char := Char.ofNat ('0'.toNat + n % 10)

/-- The digits of a number before those in `acc`. -/
def digitsBefore (n : Nat) (acc : List Char) : List Char :=
  if n < 10 then digitChar n :: acc else digitsBefore (n / 10) (digitChar n :: acc)
termination_by n
decreasing_by omega

/-- The decimal digits of a number, without leading zeros. -/
def natDigits (n : Nat) : List Char := digitsBefore n []

def intDigits : Int → List Char
  | .ofNat n => natDigits n
  | .negSucc n => '-' :: natDigits (n + 1)

/-- The double nearest to `digits * 10 ^ exponent`. Past 400 places in either direction the answer
is decided by the size alone. -/
def Double.ofDecimal (negative : Bool) (digits : Nat) (exponent : Int) : Double :=
  let places := exponent + (natDigits digits).length
  if digits = 0 ∨ places < -400 then signedZero negative
  else if 400 < places then infinite negative
  else ofMagnitude negative (digits * power 10 exponent.toNat) (power 10 (-exponent).toNat)

end Courier
