import Courier.Text.Utf8

/-! UTF-16 and UTF-32 in either byte order. -/

namespace Courier

inductive ByteOrder where
  | little
  | big
  deriving DecidableEq, Repr

def ByteOrder.pair (o : ByteOrder) (a b : UInt8) : Nat :=
  match o with
  | .little => a.toNat + 256 * b.toNat
  | .big => 256 * a.toNat + b.toNat

def isHighHalf (n : Nat) : Bool := 0xD800 ≤ n && n < 0xDC00

def isLowHalf (n : Nat) : Bool := 0xDC00 ≤ n && n < 0xE000

def joinHalves (high low : Nat) : Nat := 0x10000 + (high - 0xD800) * 0x400 + (low - 0xDC00)

/-- The 16-bit units of a byte string; `none` stands for a single byte at the end. -/
def units16 (o : ByteOrder) : Bytes → List (Option Nat)
  | [] => []
  | [_] => [none]
  | a :: b :: r => some (o.pair a b) :: units16 o r

/-- The characters of 16-bit units. A half without its partner is malformed, as is a cut unit; a
cut unit behind a high half is one malformed part with it. -/
def utf16Read (waiting : Option Nat) : List (Option Nat) → List (Option Char)
  | [] => if waiting.isSome then [none] else []
  | none :: _ => [none]
  | some u :: r =>
    match waiting with
    | some h =>
      if isLowHalf u then some (charOfCode (joinHalves h u)) :: utf16Read none r
      else if isHighHalf u then none :: utf16Read (some u) r
      else none :: some (charOfCode u) :: utf16Read none r
    | none =>
      if isHighHalf u then utf16Read (some u) r
      else if isLowHalf u then none :: utf16Read none r
      else some (charOfCode u) :: utf16Read none r

/-- The characters of 32-bit units; a surrogate code, a code past the last one and a cut unit are
malformed. -/
def utf32Read (o : ByteOrder) : Bytes → List (Option Char)
  | [] => []
  | a :: b :: c :: d :: r =>
    let code := match o with
      | .little => o.pair a b + 65536 * o.pair c d
      | .big => 65536 * o.pair a b + o.pair c d
    let char := if code < 0x110000 ∧ !(isHighHalf code || isLowHalf code) then
      some (Char.ofNat code) else none
    char :: utf32Read o r
  | _ => [none]

def utf16Chars (o : ByteOrder) (bs : Bytes) : List (Option Char) := utf16Read none (units16 o bs)

end Courier
