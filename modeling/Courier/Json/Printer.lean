import Courier.Json.Basic
import Courier.Number.Shortest
import Courier.Text.WideUnits

/-! JSON text in ASCII: a space after each comma and colon, and an escape for every other
character. -/

namespace Courier.Json

/-- An escape of four hexadecimal digits. -/
def unitEscape (n : Nat) : List Char := '\\' :: 'u' :: hexDigits 4 n

/-- A character in a string: ASCII as it is, all else as one escape or a surrogate pair. -/
def escapeChar (c : Char) : List Char :=
  if c = '"' ∨ c = '\\' then ['\\', c]
  else if c = '\n' then ['\\', 'n']
  else if c = '\r' then ['\\', 'r']
  else if c = '\t' then ['\\', 't']
  else if c = '\x08' then ['\\', 'b']
  else if c = '\x0c' then ['\\', 'f']
  else if ' ' ≤ c ∧ c ≤ '~' then [c]
  else if c.toNat < 0x10000 then unitEscape c.toNat
  else
    let n := c.toNat - 0x10000
    unitEscape (0xD800 + n / 0x400) ++ unitEscape (0xDC00 + n % 0x400)

def printString (s : String) : List Char := '"' :: (s.toList.flatMap escapeChar ++ ['"'])

def printFloat (x : Double) : List Char :=
  match x with
  | .nan => "NaN".toList
  | .infinite s => (if s then "-Infinity" else "Infinity").toList
  | x => x.text.toList

mutual

def print : Json → List Char
  | null => "null".toList
  | bool b => (if b then "true" else "false").toList
  | int n => intDigits n
  | float x => printFloat x
  | str s => printString s
  | arr xs => '[' :: (printItems xs ++ [']'])
  | obj es => '{' :: (printEntries es ++ ['}'])

def printItems : List Json → List Char
  | [] => []
  | [x] => print x
  | x :: y :: xs => print x ++ ',' :: ' ' :: printItems (y :: xs)

def printEntries : List (String × Json) → List Char
  | [] => []
  | [(k, v)] => printString k ++ ':' :: ' ' :: print v
  | (k, v) :: e :: es =>
    printString k ++ ':' :: ' ' :: (print v ++ ',' :: ' ' :: printEntries (e :: es))

end

/-- The JSON text of a value. A program writes integers of up to 4300 digits, and values nested as
far as its stack goes; the text of any other is what it would write without these bounds. -/
def text (v : Json) : String := String.ofList v.print

end Courier.Json
