import Courier.Text.Utf8

/-! Percent escapes: writing what a part of a URL may not hold, and reading escapes back. -/

namespace Courier.Url

/-- The escape of one byte, in capitals. -/
def escapeByte (b : UInt8) : List Char := '%' :: (hexDigits 2 b.toNat).map Char.toUpper

/-- A character as it is where `keep` holds, else the escapes of its UTF-8 bytes. -/
def escapeUnless (keep : Char → Bool) (c : Char) : List Char :=
  if keep c then [c] else (utf8Char c).flatMap escapeByte

def escape (keep : Char → Bool) (s : List Char) : List Char := s.flatMap (escapeUnless keep)

/-- The bytes of a text of ASCII characters and escapes. An escape that is cut or has other digits
stands for its characters. -/
def unescapeBytes : List Char → Bytes
  | '%' :: a :: b :: r =>
    match hexValue? a, hexValue? b with
    | some h, some l => UInt8.ofNat (16 * h + l) :: unescapeBytes r
    | _, _ => UInt8.ofNat 37 :: unescapeBytes (a :: b :: r)
  | c :: r => utf8Char c ++ unescapeBytes r
  | [] => []

/-- The text that the bytes of an escaped text write, malformed parts replaced. -/
def unescape (s : List Char) : List Char :=
  withReplacement (utf8Read false none (unescapeBytes s))

def isUnreserved (c : Char) : Bool := c.isAlphanum || c == '-' || c == '.' || c == '_' || c == '~'

end Courier.Url
