import Courier.Text.Hex

/-! UTF-8: writing characters as bytes, and reading bytes with a mark for each malformed part. -/

namespace Courier

/-- The character that stands for what could not be read. -/
def replacement : Char := '\uFFFD'

/-- The character of a code, the replacement for a surrogate code. -/
def charOfCode (n : Nat) : Char :=
  if n < 0xD800 ∨ (0xE000 ≤ n ∧ n < 0x110000) then Char.ofNat n else replacement

def utf8Char (c : Char) : Bytes :=
  let n := c.toNat
  let tail (k : Nat) : UInt8 := UInt8.ofNat (0x80 + n / power 64 k % 64)
  if n < 0x80 then [UInt8.ofNat n]
  else if n < 0x800 then [UInt8.ofNat (0xC0 + n / 64), tail 0]
  else if n < 0x10000 then [UInt8.ofNat (0xE0 + n / 4096), tail 1, tail 0]
  else [UInt8.ofNat (0xF0 + n / 262144), tail 2, tail 1, tail 0]

def utf8Encode (s : List Char) : Bytes := s.flatMap utf8Char

/-- A sequence begun: how many bytes are still to come, the bounds of the next one, and the code so
far. -/
structure Utf8Pending where
  left : Nat
  low : Nat
  high : Nat
  code : Nat
  deriving DecidableEq, Repr

/-- What one byte settles: the characters it completes, a malformed part as `none`, and the sequence
that is then under way. -/
abbrev Utf8Step := List (Option Char) × Option Utf8Pending

/-- A byte where a character begins. With `halves`, surrogate codes may be written like others. -/
def utf8Begin (halves : Bool) (b : Nat) : Utf8Step :=
  if b < 0x80 then ([some (Char.ofNat b)], none)
  else if b < 0xC2 then ([none], none)
  else if b < 0xE0 then ([], some ⟨1, 0x80, 0xBF, b - 0xC0⟩)
  else if b = 0xE0 then ([], some ⟨2, 0xA0, 0xBF, 0⟩)
  else if b = 0xED ∧ !halves then ([], some ⟨2, 0x80, 0x9F, 13⟩)
  else if b < 0xF0 then ([], some ⟨2, 0x80, 0xBF, b - 0xE0⟩)
  else if b = 0xF0 then ([], some ⟨3, 0x90, 0xBF, 0⟩)
  else if b < 0xF4 then ([], some ⟨3, 0x80, 0xBF, b - 0xF0⟩)
  else if b = 0xF4 then ([], some ⟨3, 0x80, 0x8F, 4⟩)
  else ([none], none)

/-- A byte inside a sequence. One that cannot go on ends a malformed part and begins anew. -/
def utf8Continue (halves : Bool) (p : Utf8Pending) (b : Nat) : Utf8Step :=
  if p.low ≤ b ∧ b ≤ p.high then
    let code := p.code * 64 + b % 64
    if p.left ≤ 1 then ([some (charOfCode code)], none)
    else ([], some ⟨p.left - 1, 0x80, 0xBF, code⟩)
  else
    let (cs, next) := utf8Begin halves b
    (none :: cs, next)

def utf8Step (halves : Bool) (pending : Option Utf8Pending) (b : Nat) : Utf8Step :=
  match pending with
  | none => utf8Begin halves b
  | some p => utf8Continue halves p b

/-- The characters that bytes write, where `pending` may be under way. A malformed part, which ends
where no sequence could go on, gives one `none`. -/
def utf8Read (halves : Bool) (pending : Option Utf8Pending) : Bytes → List (Option Char)
  | [] => if pending.isSome then [none] else []
  | b :: r =>
    let (cs, next) := utf8Step halves pending b.toNat
    cs ++ utf8Read halves next r

/-- All characters of a reading, if nothing in it was malformed. -/
def wellFormed? (cs : List (Option Char)) : Option (List Char) :=
  if cs.all (·.isSome) then some (cs.filterMap id) else none

def withReplacement (cs : List (Option Char)) : List Char := cs.map (·.getD replacement)

def utf8Decode? (bs : Bytes) : Option (List Char) := wellFormed? (utf8Read false none bs)

end Courier
