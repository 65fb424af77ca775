import Courier.Text.Lower
import Courier.Url.Address
import Courier.Url.Label
import Courier.Url.Punycode

/-! Host names beyond ASCII: each label in its Punycode form. -/

namespace Courier.Url

def isLabelDot (c : Char) : Bool := c == '.' || c == '。' || c == '．' || c == '｡'

/-- What stands before every Punycode form. -/
def punycodeMark : List Char := "xn--".toList

/-- Whether an ASCII label is a label as it stands, or the Punycode form of one. -/
def isAsciiLabel (label : List Char) : Bool :=
  if punycodeMark.isPrefixOf label then
    let code := label.drop punycodeMark.length
    !code.isEmpty && code.getLast? != some '-' && (readPunycode? code).any isLabel
  else isLabel label

/-- A label in ASCII. -/
def asciiLabel? (label : List Char) : Option (List Char) :=
  if label.all (·.toNat < 128) then
    if isAsciiLabel label then some label else none
  else if isLabel label then some (punycodeMark ++ punycode label)
  else none

/-- A host name in ASCII, if its labels can be encoded and are not too long. A dot may end it. -/
def asciiHost? (host : List Char) : Option (List Char) := do
  let labels := splitAt '.' ((lower host).map fun c => if isLabelDot c then '.' else c)
  let inner := if labels.getLast? = some [] then labels.dropLast else labels
  let encoded ← inner.mapM asciiLabel?
  if encoded.isEmpty || encoded.any (63 < ·.length) then none
  else
    let name := (encoded.intersperse ['.']).flatten
    if 253 < name.length then none
    else some (if inner.length < labels.length then name ++ ['.'] else name)

end Courier.Url
