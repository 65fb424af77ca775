import Courier.Json.Basic
import Courier.Number.Shortest
import Courier.Text.Quoted

/-! Values in literal notation, as error texts and log lines show them: quoted text, brackets, and
the words `None`, `True` and `False`. -/

namespace Courier.Json

mutual

def literalChars : Json → List Char
  | null => "None".toList
  | bool b => (if b then "True" else "False").toList
  | int n => intDigits n
  | float x => x.text.toList
  | str s => quoteChars s.toList
  | arr xs => '[' :: (literalItems xs ++ [']'])
  | obj es => '{' :: (literalEntries es ++ ['}'])

def literalItems : List Json → List Char
  | [] => []
  | [x] => literalChars x
  | x :: y :: xs => literalChars x ++ ',' :: ' ' :: literalItems (y :: xs)

def literalEntries : List (String × Json) → List Char
  | [] => []
  | [(k, v)] => quoteChars k.toList ++ ':' :: ' ' :: literalChars v
  | (k, v) :: e :: es =>
    quoteChars k.toList ++ ':' :: ' ' :: (literalChars v ++ ',' :: ' ' :: literalEntries (e :: es))

end

/-- A value in literal notation. A program writes integers of up to 4300 digits, and values nested
as far as its stack goes; the literal of any other is what it would write without these bounds. -/
def literal (v : Json) : String := String.ofList v.literalChars

/-- A value as part of a text: a string as it is, all else in literal notation. -/
def display : Json → String
  | str s => s
  | v => v.literal

end Courier.Json
