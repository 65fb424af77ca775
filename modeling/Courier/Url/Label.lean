import Courier.Url.Letters
import Courier.Url.Marks

/-! Labels of host names: what they may be before they are encoded. -/

namespace Courier.Url

/-- A label may neither begin nor end with a hyphen, nor have two in its third and fourth place. -/
def hyphensStandWell (label : List Char) : Bool :=
  label.head? != some '-' && label.getLast? != some '-' && (label.drop 2).take 2 != ['-', '-']

section Scripts

def greekRanges : CodeRanges := [
  (0x371, 0x3E1), (0x3F3, 0x3FC), (0x1D26, 0x1D2A), (0x1F00, 0x1FF6), (0xAB65, 0xAB65)]

def hebrewRanges : CodeRanges := [
  (0x591, 0x5F4), (0xFB1E, 0xFB1E)]

/-- Hiragana, Katakana and Han. -/
def japaneseRanges : CodeRanges := [
  (0x3005, 0x3005), (0x3007, 0x3007), (0x3041, 0x3096), (0x309D, 0x30FA), (0x30FD, 0x30FE),
  (0x31F0, 0x9FFF), (0xFA0E, 0xFA29), (0x16FE3, 0x16FE3), (0x16FF0, 0x16FF1), (0x1AFF0, 0x1B167),
  (0x20000, 0x3134A)]

def isArabicDigit (c : Char) : Bool := '٠' ≤ c && c ≤ '٩'

def isPersianDigit (c : Char) : Bool := '۰' ≤ c && c ≤ '۹'

end Scripts

section Joining

/-- The characters that join what follows them. -/
def joiningRanges : CodeRanges := [
  (0x620, 0x620), (0x626, 0x626), (0x628, 0x628), (0x62A, 0x62E), (0x633, 0x647), (0x649, 0x64A),
  (0x66E, 0x66F), (0x679, 0x687), (0x69A, 0x6BF), (0x6C1, 0x6C2), (0x6CC, 0x6CC), (0x6CE, 0x6CE),
  (0x6D0, 0x6D1), (0x6FA, 0x6FC), (0x6FF, 0x6FF), (0x712, 0x714), (0x71A, 0x71D), (0x71F, 0x727),
  (0x729, 0x729), (0x72B, 0x72B), (0x72D, 0x72E), (0x74E, 0x758), (0x75C, 0x76A), (0x76D, 0x770),
  (0x772, 0x772), (0x775, 0x777), (0x77A, 0x77F), (0x7CA, 0x7EA), (0x841, 0x845), (0x848, 0x848),
  (0x84A, 0x853), (0x855, 0x855), (0x860, 0x860), (0x862, 0x865), (0x868, 0x868), (0x886, 0x886),
  (0x889, 0x88D), (0x8A0, 0x8A9), (0x8AF, 0x8B0), (0x8B3, 0x8B8), (0x8BA, 0x8C8), (0x1820, 0x1878),
  (0x1887, 0x18AA), (0xA840, 0xA872), (0x10AC0, 0x10AC4), (0x10ACD, 0x10ACD), (0x10AD3, 0x10ADC),
  (0x10ADE, 0x10AE0), (0x10B80, 0x10B80), (0x10B82, 0x10B82), (0x10B86, 0x10B88),
  (0x10B8A, 0x10B8B), (0x10B8D, 0x10B8D), (0x10B90, 0x10B90), (0x10D00, 0x10D21),
  (0x10D23, 0x10D23), (0x10F30, 0x10F32), (0x10F34, 0x10F44), (0x10F70, 0x10F73),
  (0x10F76, 0x10FB0), (0x10FB2, 0x10FB3), (0x10FB8, 0x10FB8), (0x10FBB, 0x10FBC),
  (0x10FBE, 0x10FBF), (0x10FC1, 0x10FC1), (0x10FC4, 0x10FC4), (0x1E922, 0x1E943)]

/-- The characters that what precedes them joins. -/
def joinedRanges : CodeRanges := [
  (0x620, 0x620), (0x622, 0x64A), (0x66E, 0x673), (0x679, 0x6D5), (0x6EE, 0x6EF), (0x6FA, 0x6FC),
  (0x6FF, 0x77F), (0x7CA, 0x7EA), (0x840, 0x860), (0x862, 0x865), (0x867, 0x882), (0x886, 0x886),
  (0x889, 0x8AC), (0x8AE, 0x8C8), (0x1820, 0x1878), (0x1887, 0x18AA), (0xA840, 0xA871),
  (0x10AC0, 0x10AC5), (0x10AC7, 0x10ACA), (0x10ACE, 0x10AD6), (0x10AD8, 0x10AE1),
  (0x10AE4, 0x10AE4), (0x10B80, 0x10B91), (0x10D01, 0x10D23), (0x10F30, 0x10F44),
  (0x10F70, 0x10FB0), (0x10FB2, 0x10FB6), (0x10FB8, 0x10FBF), (0x10FC1, 0x10FC4),
  (0x1E922, 0x1E943)]

/-- Whether letters join across a character: most of the marks that take no place. -/
def isTransparent (c : Char) : Bool :=
  if isNonspacing c then c != Char.ofNat 0x1171E
  else [0xCBF, 0xCC6, 0x11A07, 0x11A08, 0x11C3F, 0x1E94B].contains c.toNat

/-- Whether the letters around a place would join. The text before it goes from back to front. -/
def joins (before behind : List Char) : Bool :=
  (before.dropWhile isTransparent).head?.any joiningRanges.holds &&
    (behind.dropWhile isTransparent).head?.any joinedRanges.holds

/-- Whether the character before a place suppresses the vowel of its letter. -/
def followsVirama (before : List Char) : Bool := before.head?.any (combiningClass · == 9)

end Joining

/-- Whether a character may stand between the text before it, which goes from back to front, and the
text behind it. -/
def standsBetween (before : List Char) (c : Char) (behind : List Char) : Bool :=
  match c with
  | '·' => before.head? == some 'l' && behind.head? == some 'l'
  | '͵' => behind.head?.any greekRanges.holds
  | '׳' | '״' => before.head?.any hebrewRanges.holds
  | '・' => (before ++ behind).any fun d => d != '・' && japaneseRanges.holds d
  | '\u200c' => followsVirama before || joins before behind
  | '\u200d' => followsVirama before
  | c =>
    if isArabicDigit c then !(before ++ behind).any isPersianDigit
    else if isPersianDigit c then !(before ++ behind).any isArabicDigit
    else true

/-- Whether every character of a text stands well, with some text before it. -/
def allStandWell : (before : List Char) → List Char → Bool
  | _, [] => true
  | before, c :: behind => standsBetween before c behind && allStandWell (c :: before) behind

section Directions

inductive Direction where
  | left
  | right
  | digit
  | arabicDigit
  | neutral
  | nonspacing
  deriving DecidableEq

def rightRanges : CodeRanges := [
  (0x5D0, 0x64A), (0x66E, 0x6EF), (0x6FA, 0x8C9), (0xFE73, 0xFE73), (0x10800, 0x10D23),
  (0x10E80, 0x10FF6), (0x1E800, 0x1E959)]

def neutralRanges : CodeRanges := [
  (0x2D, 0x2D), (0xB7, 0xB7), (0x2B9, 0x2BA), (0x2C6, 0x2CF), (0x2EC, 0x2EC), (0x375, 0x375),
  (0x200C, 0x200D), (0x2E2F, 0x2E2F), (0x30FB, 0x30FB), (0xA67F, 0xA67F), (0xA717, 0xA71F),
  (0xA788, 0xA788)]

/-- Which way a character is read. -/
def direction (c : Char) : Direction :=
  if isNonspacing c then .nonspacing
  else if c.isDigit || isPersianDigit c then .digit
  else if isArabicDigit c || CodeRanges.holds [(0x10D30, 0x10D39)] c then .arabicDigit
  else if neutralRanges.holds c then .neutral
  else if rightRanges.holds c then .right
  else .left

/-- Whether a label is read one way. Anything that is read from right to left has to be the whole of
it, between a letter at its beginning and a letter or a digit at its end, with digits of one kind.
-/
def readsOneWay (label : List Char) : Bool :=
  let ways := label.map direction
  if ways.contains .right || ways.contains .arabicDigit then
    ways.head? == some .right && !ways.contains .left &&
      (ways.reverse.dropWhile (· == .nonspacing)).head?.any (· != .neutral) &&
      !(ways.contains .digit && ways.contains .arabicDigit)
  else true

end Directions

/-- What a label may be before it is encoded. -/
def isLabel (label : List Char) : Bool :=
  !label.isEmpty && label.all isLabelChar && hyphensStandWell label && composed label == label &&
    !label.head?.any isMark && allStandWell [] label && readsOneWay label

end Courier.Url
