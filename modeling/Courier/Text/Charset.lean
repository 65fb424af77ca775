import Courier.Text.Blank
import Courier.Text.CodePage
import Courier.Text.Parameters
import Courier.Text.WideUnits

/-! Character sets by name, as a content type gives them, and reading bytes by them. -/

namespace Courier

inductive Charset where
  | utf8
  | utf8Marked
  | ascii
  | latin1
  | utf16 (order : Option ByteOrder)
  | utf32 (order : Option ByteOrder)
  | page (page : CodePage)
  /-- Another way of writing bytes that has its name among the sets. Reading by it fails. -/
  | noText (trouble : Trouble)
  deriving Repr

namespace Charset

/-- The names of the sets that need no table. -/
def commonNames : List (List String × Charset) := [
  (["utf8", "utf_8", "u8", "utf", "utf8_ucs2", "utf8_ucs4", "cp65001"], utf8),
  (["utf_8_sig"], utf8Marked),
  (["646", "ansi_x3.4_1968", "ansi_x3.4_1986", "ansi_x3_4_1968", "ascii", "cp367", "csascii",
    "ibm367", "iso646_us", "iso_646.irv_1991", "iso_ir_6", "us", "us_ascii"], ascii),
  (["8859", "cp819", "csisolatin1", "ibm819", "iso8859", "iso8859_1", "iso_8859_1",
    "iso_8859_1_1987", "iso_ir_100", "l1", "latin", "latin1", "latin_1"], latin1),
  (["u16", "utf16", "utf_16"], utf16 none),
  (["unicodelittleunmarked", "utf_16_le", "utf_16le"], utf16 (some .little)),
  (["unicodebigunmarked", "utf_16_be", "utf_16be"], utf16 (some .big)),
  (["u32", "utf32", "utf_32"], utf32 none),
  (["utf_32_le", "utf_32le"], utf32 (some .little)),
  (["utf_32_be", "utf_32be"], utf32 (some .big))]

/-- The names of what is no set of characters. -/
def noTextNames : List (List String × Trouble) := [
  (["base64", "base64_codec", "base_64", "bz2", "bz2_codec", "hex", "hex_codec", "quopri",
    "quopri_codec", "quoted_printable", "quotedprintable", "uu", "uu_codec", "zip", "zlib",
    "zlib_codec"], ⟨"AssertionError", ""⟩),
  (["rot13", "rot_13"],
    ⟨"TypeError", "descriptor 'translate' for 'str' objects doesn't apply to a 'bytes' object"⟩),
  (["idna"], ⟨"UnicodeError", "Unsupported error handling replace"⟩),
  (["undefined"], ⟨"UnicodeError", "undefined encoding"⟩)]

def isNameChar (c : Char) : Bool := c.isAlphanum || c == '.'

/-- A name in small letters, with one underscore for each run of other characters inside it. -/
def foldName (s : List Char) : List Char :=
  let step (state : List Char × Bool) (c : Char) : List Char × Bool :=
    let (acc, gap) := state
    if isNameChar c then (c.toLower :: (if gap && !acc.isEmpty then '_' :: acc else acc), false)
    else (acc, true)
  (s.foldl step ([], false)).1.reverse

/-- The key of a name, by which sets are found. -/
def fold (name : String) : String := String.ofList (foldName name.toList)

/-- The set of a name, if there is a table for it here. A null character is in no name. -/
def named? (name : String) : Except Trouble (Option Charset) :=
  let key := fold name
  if name.toList.contains '\x00' then .error ⟨"ValueError", "embedded null character"⟩
  else
    let common := (commonNames.find? (·.1.contains key)).map (·.2)
    let paged := (codePages.find? (·.names.contains key)).map page
    let other := (noTextNames.find? (·.1.contains key)).map fun (_, t) => noText t
    .ok (common <|> paged <|> other)

/-- The mark of a byte order at the front of a text, and what follows it. -/
def byteOrderMark16? : Bytes → Option (ByteOrder × Bytes)
  | 0xFF :: 0xFE :: r => some (.little, r)
  | 0xFE :: 0xFF :: r => some (.big, r)
  | _ => none

def byteOrderMark32? : Bytes → Option (ByteOrder × Bytes)
  | 0xFF :: 0xFE :: 0 :: 0 :: r => some (.little, r)
  | 0 :: 0 :: 0xFE :: 0xFF :: r => some (.big, r)
  | _ => none

def withoutMark8 : Bytes → Bytes
  | 0xEF :: 0xBB :: 0xBF :: r => r
  | bs => bs

def pageChar (p : CodePage) (b : UInt8) : Option Char :=
  if b < 128 then some (Char.ofNat b.toNat)
  else (p.upper.toList[b.toNat - 128]?).filter (· != replacement)

/-- Bytes cannot be read at all whose set promises a mark of the byte order that they lack. -/
def unmarked (width : String) : Trouble :=
  ⟨"UnicodeError", width ++ " stream does not start with BOM"⟩

/-- The characters of bytes in a set, with `none` for each malformed part. -/
def characters (bs : Bytes) : Charset → Except Trouble (List (Option Char))
  | utf8 => .ok (utf8Read false none bs)
  | utf8Marked => .ok (utf8Read false none (withoutMark8 bs))
  | ascii => .ok (bs.map fun b => if b < 128 then some (Char.ofNat b.toNat) else none)
  | latin1 => .ok (bs.map fun b => some (Char.ofNat b.toNat))
  | utf16 (some o) => .ok (utf16Chars o bs)
  | utf16 none =>
    match byteOrderMark16? bs with
    | some (o, r) => .ok (utf16Chars o r)
    | none => if bs.length < 2 then .ok (utf16Chars .little bs) else .error (unmarked "UTF-16")
  | utf32 (some o) => .ok (utf32Read o bs)
  | utf32 none =>
    match byteOrderMark32? bs with
    | some (o, r) => .ok (utf32Read o r)
    | none => if bs.length < 4 then .ok (utf32Read .little bs) else .error (unmarked "UTF-32")
  | page p => .ok (bs.map (pageChar p))
  | noText t => .error t

/-- The text of bytes, with the replacement character for each malformed part. -/
def decode (set : Charset) (bs : Bytes) : Except Trouble String :=
  (set.characters bs).map fun cs => String.ofList (withReplacement cs)

/-- The bytes that a text stands for: one for each character below 256, an escape for the others. -/
def rawBytes (s : List Char) : Bytes :=
  s.flatMap fun c =>
    if c.toNat < 256 then [UInt8.ofNat c.toNat]
    else
      let escape := if c.toNat < 65536 then '\\' :: 'u' :: hexDigits 4 c.toNat
        else '\\' :: 'U' :: hexDigits 8 c.toNat
      escape.map fun d => UInt8.ofNat d.toNat

/-- The text of bytes that are well-formed in a set. Without a mark of the byte order the smaller
end comes first. -/
def decode? (set : Charset) (bs : Bytes) : Option (List Char) :=
  match set.characters bs with
  | .ok cs => wellFormed? cs
  | .error _ =>
    match set with
    | utf16 _ => wellFormed? (utf16Chars .little bs)
    | utf32 _ => wellFormed? (utf32Read .little bs)
    | _ => none

/-- The name that a parameter gives for a set. Where its octets cannot be read, they are the name.
-/
def nameOf : Parameter.Value → Except Trouble (List Char)
  | .plain s => .ok s
  | .octets set s =>
    (named? (if set.isEmpty then "us-ascii" else String.ofList set)).map fun set? =>
      (set?.bind fun set => set.decode? (rawBytes s)).getD s

/-- The name of the set that a content type asks for, in small letters. -/
def nameIn? (contentType : String) : Except Trouble (Option String) := do
  match ← Parameter.find? contentType "charset".toList with
  | none => .ok none
  | some value =>
    let name ← nameOf value
    .ok (if name.all (·.toNat < 128) then some (String.ofList (lower name)) else none)

/-- The characters of a JSON document, whose encoding shows in its first bytes. Surrogate codes
count as characters. -/
def jsonCharacters? (bs : Bytes) : Option (List Char) :=
  let wide16 (o : ByteOrder) (bs : Bytes) : Option (List Char) :=
    if bs.length % 2 = 0 then some (withReplacement (utf16Chars o bs)) else none
  let wide32 (o : ByteOrder) (bs : Bytes) : Option (List Char) := wellFormed? (utf32Read o bs)
  match byteOrderMark32? bs with
  | some (o, r) => wide32 o r
  | none =>
    match byteOrderMark16? bs with
    | some (o, r) => wide16 o r
    | none =>
      match bs with
      | 0 :: 0 :: _ :: _ :: _ => wide32 .big bs
      | 0 :: _ :: _ :: _ :: _ => wide16 .big bs
      | _ :: 0 :: 0 :: 0 :: _ => wide32 .little bs
      | _ :: 0 :: _ :: _ :: _ => wide16 .little bs
      | [0, _] => wide16 .big bs
      | [_, 0] => wide16 .little bs
      | _ => wellFormed? (utf8Read true none (withoutMark8 bs))

end Charset

end Courier
