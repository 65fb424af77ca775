import Courier.Text.Hex
import Courier.Text.Printable

/-! Text in quotes on one line: single quotes unless only single quotes occur inside, and escapes
for the quote, the backslash and everything without a visible form. -/

namespace Courier

/-- The quote that needs fewer escapes, the single one by default. -/
def chooseQuote (s : List Char) : Char :=
  if s.contains '\'' && !s.contains '"' then '"' else '\''

/-- An escape by code: two digits, four or eight, as the code needs. -/
def codeEscape (n : Nat) : List Char :=
  if n < 0x100 then '\\' :: 'x' :: hexDigits 2 n
  else if n < 0x10000 then '\\' :: 'u' :: hexDigits 4 n
  else '\\' :: 'U' :: hexDigits 8 n

def quoteChar (quote c : Char) : List Char :=
  if c = quote ∨ c = '\\' then ['\\', c]
  else if c = '\t' then ['\\', 't']
  else if c = '\n' then ['\\', 'n']
  else if c = '\r' then ['\\', 'r']
  else if isPrintable c then [c]
  else codeEscape c.toNat

def quoteChars (s : List Char) : List Char :=
  let q := chooseQuote s
  q :: (s.flatMap (quoteChar q) ++ [q])

def quoted (s : String) : String := String.ofList (quoteChars s.toList)

end Courier
