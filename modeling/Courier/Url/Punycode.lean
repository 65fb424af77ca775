/-! Punycode: a text by its ASCII characters, and by the differences between the code points and
places of the others. -/

namespace Courier.Url

def punycodeDigit (n : Nat) : Char :=
  if n < 26 then Char.ofNat (97 + n) else Char.ofNat (22 + n)

def punycodeValue? (c : Char) : Option Nat :=
  if 'a' ≤ c ∧ c ≤ 'z' then some (c.toNat - 97)
  else if c.isDigit then some (c.toNat - 22)
  else none

/-- The bias for a difference, which is made small first. -/
def biasFor (k delta : Nat) : Nat :=
  if 455 < delta then biasFor (k + 36) (delta / 35) else k + 36 * delta / (delta + 38)
termination_by delta
decreasing_by exact Nat.div_lt_self (by omega) (by decide)

/-- The next bias from the last difference. -/
def adaptBias (delta points : Nat) (first : Bool) : Nat :=
  let delta := if first then delta / 700 else delta / 2
  biasFor 0 (delta + delta / points)

/-- The digits below this one end a difference. -/
def threshold (bias k : Nat) : Nat :=
  if k ≤ bias then 1 else if bias + 26 ≤ k then 26 else k - bias

theorem threshold_pos (bias k : Nat) : 0 < threshold bias k := by
  unfold threshold
  split
  · decide
  · split <;> omega

/-- A difference as digits of growing weight. -/
def differenceDigits (bias k q : Nat) : List Char :=
  let t := threshold bias k
  if q < t then [punycodeDigit q]
  else punycodeDigit (t + (q - t) % (36 - t)) ::
    differenceDigits bias (k + 36) ((q - t) / (36 - t))
termination_by q
decreasing_by
  have hle := Nat.div_le_self (q - threshold bias k) (36 - threshold bias k)
  have hpos := threshold_pos bias k
  omega

structure PunycodeState where
  delta : Nat
  bias : Nat
  handled : Nat
  out : List Char

/-- The characters of a label at the code point `m`, which is the least one not yet written. -/
def punycodeRound (basic m : Nat) (label : List Char) (st : PunycodeState) : PunycodeState :=
  label.foldl (fun st c =>
    let n := c.toNat
    if n < m then { st with delta := st.delta + 1 }
    else if n = m then
      { delta := 0, bias := adaptBias st.delta (st.handled + 1) (st.handled == basic),
        handled := st.handled + 1,
        out := st.out ++ differenceDigits st.bias 36 st.delta }
    else st) st

def punycode (label : List Char) : List Char :=
  let basic := label.filter (·.toNat < 128)
  let higher := ((label.filter (128 ≤ ·.toNat)).map (·.toNat)).mergeSort.eraseDups
  let begin : PunycodeState := ⟨0, 72, basic.length, []⟩
  let finish := (higher.foldl (fun (state : Nat × PunycodeState) m =>
    let (n, st) := state
    let st := punycodeRound basic.length m label
      { st with delta := st.delta + (m - n) * (st.handled + 1) }
    (m + 1, { st with delta := st.delta + 1 })) (128, begin)).2
  basic ++ (if basic.isEmpty then [] else ['-']) ++ finish.out

/-- A difference from the digits at the front of a text, and the text behind them. -/
def readDifference? (bias : Nat) : (k weight : Nat) → List Char → Option (Nat × List Char)
  | _, _, [] => none
  | k, weight, c :: s => do
    let d ← punycodeValue? c
    if d < threshold bias k then some (d * weight, s)
    else
      let (n, rest) ← readDifference? bias (k + 36) (weight * (36 - threshold bias k)) s
      some (d * weight + n, rest)

theorem length_readDifference? {bias k weight : Nat} {s rest : List Char} {n : Nat}
    (h : readDifference? bias k weight s = some (n, rest)) : rest.length < s.length := by
  induction s generalizing k weight n with
  | nil => cases h
  | cons c s ih =>
    simp only [readDifference?, Option.bind_eq_bind, Option.bind_eq_some_iff] at h
    obtain ⟨d, -, h⟩ := h
    split at h
    · cases h
      exact Nat.lt_succ_self _
    · obtain ⟨⟨n', rest'⟩, hrest, h⟩ := Option.bind_eq_some_iff.mp h
      cases h
      exact Nat.lt_succ_of_lt (ih hrest)

/-- Puts the characters whose differences a text holds between those that are known: the next one
has the code point `n` or a later one, and comes behind the place `i` or among a later one's. -/
def insertAll? (n i bias : Nat) (first : Bool) (known s : List Char) : Option (List Char) :=
  if s.isEmpty then some known
  else match h : readDifference? bias 36 1 s with
    | none => none
    | some (delta, rest) =>
      let points := known.length + 1
      let m := n + (i + delta) / points
      let place := (i + delta) % points
      if m.isValidChar then
        insertAll? m (place + 1) (adaptBias delta points first) false
          (known.insertIdx place (Char.ofNat m)) rest
      else none
termination_by s.length
decreasing_by exact length_readDifference? h

/-- The text of a Punycode form. What stands before the last hyphen are its ASCII characters. -/
def readPunycode? (s : List Char) : Option (List Char) :=
  let digits := (s.reverse.takeWhile (· ≠ '-')).reverse
  let known := (s.take (s.length - digits.length)).dropLast
  insertAll? 128 0 72 true known digits

end Courier.Url
