import Courier.Metadata.Binder
import Mathlib.Data.List.Basic

/-! The headers that a ready-made binder writes: the stem of its level, or that of a removal, and then
the key in lower case without the stem that it may have had. -/

namespace Courier.Metadata

/-- A mapping of text to text. -/
def Offered.ofTexts (entries : List (String × String)) : Offered :=
  .mapping (entries.map fun e => (.str e.1, .str e.2))

namespace Scope

/-- What every header of a mode begins with. -/
def lead (scope : Scope) : Mode → List Char
  | .set => scope.stem.toList
  | .remove => "x-remove".toList ++ scope.stem.toList.tail

/-- A key in lower case, less one stem at its front. -/
def rest (scope : Scope) (key : String) : List Char :=
  if scope.stem.toList <+: lower key.toList then
    (lower key.toList).drop scope.stem.toList.length
  else lower key.toList

def headerFor (scope : Scope) (mode : Mode) (entry : String × String) : Header :=
  (String.ofList (scope.lead mode ++ scope.rest entry.1),
    match mode with
    | .set => entry.2
    | .remove => "ignored")

theorem lower_stem (scope : Scope) : lower scope.stem.toList = scope.stem.toList := by
  cases scope <;> decide +kernel

theorem stem_ne_nil (scope : Scope) : scope.stem.toList ≠ [] := by
  cases scope <;> decide

end Scope

namespace Binder

theorem headerKey_ofScope (scope : Scope) (mode : Mode) (key : String) :
    (ofScope scope mode).headerKey key = scope.stem.toList ++ scope.rest key := by
  have hstem : (ofScope scope mode).stem = scope.stem.toList := scope.lower_stem
  simp only [headerKey, hstem, List.isPrefixOf_iff_prefix, Scope.rest]
  split_ifs with h
  · exact List.prefix_iff_eq_append.mp h |>.symm
  · rfl

theorem header_ofScope (scope : Scope) (mode : Mode) (entry : String × String) :
    (ofScope scope mode).header entry = scope.headerFor mode entry := by
  have hkey := headerKey_ofScope scope mode entry.1
  cases mode with
  | set =>
    show (String.ofList ((ofScope scope .set).headerKey entry.1), entry.2) = _
    rw [hkey]
    rfl
  | remove =>
    have htail : (scope.stem.toList ++ scope.rest entry.1).drop 1 =
        scope.stem.toList.tail ++ scope.rest entry.1 := by
      rw [List.drop_one, List.tail_append_of_ne_nil scope.stem_ne_nil]
    show (String.ofList ("x-remove".toList ++
      ((ofScope scope .remove).headerKey entry.1).drop 1), removalValue) = _
    rw [hkey, htail, ← List.append_assoc]
    rfl

theorem textEntries_texts (es : List (String × String)) :
    textEntries (es.map fun e => (.str e.1, .str e.2)) = .ok es := by
  induction es with
  | nil => rfl
  | cons e es ih =>
    simp only [List.map_cons, textEntries, ih]
    rfl

theorem eq_texts_of_textEntries {ps : List (Json × Json)} {es : List (String × String)}
    (h : textEntries ps = .ok es) : ps = es.map fun e => (.str e.1, .str e.2) := by
  fun_induction textEntries ps generalizing es with
  | case1 =>
    cases h
    rfl
  | case2 k v ps ih =>
    cases ht : textEntries ps with
    | error f =>
      rw [ht] at h
      cases h
    | ok t =>
      rw [ht] at h
      cases h
      rw [ih ht, List.map_cons]
  | case3 => cases h

theorem checkMetadata_eq_ok_iff {m : Offered} {es : List (String × String)} :
    checkMetadata m = .ok es ↔ m = .ofTexts es := by
  cases m with
  | mapping ps =>
    show textEntries ps = .ok es ↔ _
    rw [Offered.ofTexts, Offered.mapping.injEq]
    constructor
    · exact eq_texts_of_textEntries
    · rintro rfl
      exact textEntries_texts es
  | other v =>
    show Except.error _ = .ok es ↔ Offered.other v = .mapping _
    simp

theorem bind_texts {ε η : Type} (b : Binder) (r : HttpRequest ε η) (es : List (String × String)) :
    b.bind (some r) (.ofTexts es) = .ok (r.replaceHeaders (b.headers es), b.boundEntry es.length) := by
  rw [bind, checkMetadata_eq_ok_iff.mpr rfl]
  rfl

/-- Metadata that is not a mapping of text to text is refused, with the reason. -/
theorem checkMetadata_eq_error {m : Offered} (h : ∀ es, m ≠ .ofTexts es) :
    ∃ f, checkMetadata m = .error f := by
  cases hc : checkMetadata m with
  | error f => exact ⟨f, rfl⟩
  | ok es => exact (h es (checkMetadata_eq_ok_iff.mp hc)).elim

end Binder

end Courier.Metadata
