import Courier.Proofs.Text.Utf8
import Courier.Text.Charset

/-! Bytes read by a character set. Only a set that asks for a mark of the byte order refuses bytes,
and what is no set of text; every other one has a character for each part that it cannot read. -/

namespace Courier

namespace Charset

/-- Bytes that a set does not read, since a mark of the byte order is missing. What is no set of
text reads none, though nobody asks it for the text of no bytes. -/
def Refuses (bs : Bytes) : Charset → Prop
  | utf16 none => byteOrderMark16? bs = none ∧ 2 ≤ bs.length
  | utf32 none => byteOrderMark32? bs = none ∧ 4 ≤ bs.length
  | noText _ => bs ≠ []
  | _ => False

theorem not_refuses_nil (set : Charset) : ¬ set.Refuses [] := by
  cases set with
  | utf16 order | utf32 order => cases order <;> simp [Refuses]
  | noText => exact fun h => h rfl
  | utf8 | utf8Marked | ascii | latin1 | page => exact id

theorem decode_eq_ok_iff (set : Charset) {bs : Bytes} (h : bs ≠ []) :
    (∃ t, set.decode bs = .ok t) ↔ ¬ set.Refuses bs := by
  have hmap (x : Except Trouble (List (Option Char))) :
      (∃ t, x.map (fun cs => String.ofList (withReplacement cs)) = .ok t) ↔ ∃ cs, x = .ok cs := by
    cases x <;> simp [Except.map]
  rw [decode, hmap]
  cases set with
  | utf16 order =>
    cases order with
    | some o => simp [characters, Refuses]
    | none =>
      cases hb : byteOrderMark16? bs with
      | some m => simp [characters, Refuses, hb]
      | none => by_cases hl : bs.length < 2 <;> simp [characters, Refuses, hb, hl]
  | utf32 order =>
    cases order with
    | some o => simp [characters, Refuses]
    | none =>
      cases hb : byteOrderMark32? bs with
      | some m => simp [characters, Refuses, hb]
      | none => by_cases hl : bs.length < 4 <;> simp [characters, Refuses, hb, hl]
  | noText => simp [characters, Refuses, h]
  | utf8 | utf8Marked | ascii | latin1 | page => simp [characters, Refuses]

theorem jsonCharacters?_brackets (s : List Char) :
    jsonCharacters? (utf8Encode ('[' :: '[' :: s)) = some ('[' :: '[' :: s) := by
  have hbytes : utf8Encode ('[' :: '[' :: s) = 0x5B :: 0x5B :: utf8Encode s := rfl
  have hread : wellFormed? (utf8Read true none (utf8Encode ('[' :: '[' :: s))) =
      some ('[' :: '[' :: s) := by
    rw [utf8Read_encode]
    simp [wellFormed?, List.filterMap_map]
  -- Neither of the first two bytes is a zero or begins a mark, so the bytes are taken for UTF-8.
  rw [← hread, hbytes]
  simp [jsonCharacters?, byteOrderMark32?, byteOrderMark16?, withoutMark8]

end Charset

end Courier
