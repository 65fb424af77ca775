import Courier.Proofs.Metadata.Header
import Courier.Proofs.Text.Lower

/-! The spellings of a key. With the stem of its level in front, in any case, and without it a key
names the same header. The stems end in a hyphen, so what follows is put in lower case on its own. -/

namespace Courier.Metadata

namespace Scope

variable {scope : Scope} {spelled : String}

theorem stem_getLast? (scope : Scope) : scope.stem.toList.getLast? = some '-' := by
  cases scope <;> decide

theorem sigma_notMem_stem (scope : Scope) : 'σ' ∉ scope.stem.toList ∧ 'ς' ∉ scope.stem.toList := by
  cases scope <;> decide

theorem lower_spelled_append (h : lowerText spelled = scope.stem) (key : String) :
    lower (spelled ++ key).toList = scope.stem.toList ++ lower key.toList := by
  have hstem : lower spelled.toList = scope.stem.toList := by
    rw [← h, lowerText, String.toList_ofList]
  have hsigma : 'Σ' ∉ spelled.toList := by
    intro hs
    have hform := sigma_mem_lowerFrom false hs
    rw [← lower, hstem] at hform
    exact hform.elim scope.sigma_notMem_stem.1 scope.sigma_notMem_stem.2
  have hlast : spelled.toList.getLast? = some '-' := by
    apply getLast?_of_lower (by decide) hsigma
    rw [hstem]
    exact scope.stem_getLast?
  rw [String.toList_append, lower_append_of_hyphen _ hsigma hlast, hstem]

theorem rest_spelled_append (h : lowerText spelled = scope.stem) (key : String) :
    scope.rest (spelled ++ key) = lower key.toList := by
  rw [rest, lower_spelled_append h, if_pos (List.prefix_append _ _), List.drop_left]

theorem headerFor_eq_of_rest {mode : Mode} {key key' value : String}
    (h : scope.rest key = scope.rest key') :
    scope.headerFor mode (key, value) = scope.headerFor mode (key', value) := by
  simp only [headerFor, h]

theorem headerFor_name_eq_iff {mode : Mode} {entry entry' : String × String} :
    (scope.headerFor mode entry).1 = (scope.headerFor mode entry').1 ↔
      scope.rest entry.1 = scope.rest entry'.1 := by
  simp only [headerFor, String.ofList_inj, List.append_cancel_left_eq]

end Scope

theorem Binder.bind_entry {ε η : Type} (scope : Scope) (mode : Mode) (r : HttpRequest ε η)
    (entry : String × String) :
    (Binder.ofScope scope mode).bind (some r) (.ofTexts [entry]) =
      .ok (r.replaceHeaders [scope.headerFor mode entry],
        (Binder.ofScope scope mode).boundEntry 1) := by
  rw [bind_texts, headers, List.map_singleton, header_ofScope]
  rfl

/-- A key that has not the stem of its level in lower case gives one header with the stem, in any case,
and without. Two keys give one name exactly when in lower case, less one stem each, they are equal. -/
theorem stem_optional {ε η : Type} (scope : Scope) (mode : Mode) (r : HttpRequest ε η) :
    let b := Binder.ofScope scope mode
    (∀ spelled key value : String, lowerText spelled = scope.stem →
      ¬ scope.stem.toList <+: lower key.toList →
      ∃ header : Header,
        b.bind (some r) (.ofTexts [(key, value)]) =
          .ok (r.replaceHeaders [header], b.boundEntry 1) ∧
        b.bind (some r) (.ofTexts [(spelled ++ key, value)]) =
          .ok (r.replaceHeaders [header], b.boundEntry 1)) ∧
    ∀ entry entry' : String × String, ∃ header header' : Header,
      b.bind (some r) (.ofTexts [entry]) = .ok (r.replaceHeaders [header], b.boundEntry 1) ∧
      b.bind (some r) (.ofTexts [entry']) = .ok (r.replaceHeaders [header'], b.boundEntry 1) ∧
      (header.1 = header'.1 ↔ scope.rest entry.1 = scope.rest entry'.1) := by
  intro b
  have hentry := Binder.bind_entry scope mode r
  refine ⟨fun spelled key value hspelled hkey => ?_, fun entry entry' => ?_⟩
  · have hrest : scope.rest (spelled ++ key) = scope.rest key := by
      rw [Scope.rest_spelled_append hspelled, Scope.rest, if_neg hkey]
    refine ⟨_, hentry (key, value), ?_⟩
    rw [hentry, Scope.headerFor_eq_of_rest hrest]
  · exact ⟨_, _, hentry entry, hentry entry', Scope.headerFor_name_eq_iff⟩

theorem stem_optional_sigma :
    let b := Binder.ofScope .object .remove
    let r : HttpRequest := { method := "POST", endpoint := "/c/n", more := () }
    lowerText "X-Object-META-" = Scope.object.stem ∧
    ¬ Scope.object.stem.toList <+: lower "ΣΑΣ".toList ∧
    ∃ header : Header,
      b.bind (some r) (.ofTexts [("ΣΑΣ", "1")]) = .ok (r.replaceHeaders [header], b.boundEntry 1) ∧
      b.bind (some r) (.ofTexts [("X-Object-META-" ++ "ΣΑΣ", "1")]) =
        .ok (r.replaceHeaders [header], b.boundEntry 1) := by
  intro b r
  have hspelled : lowerText "X-Object-META-" = Scope.object.stem := by decide +kernel
  have hkey : ¬ Scope.object.stem.toList <+: lower "ΣΑΣ".toList := by decide +kernel
  exact ⟨hspelled, hkey, (stem_optional .object .remove r).1 _ _ _ hspelled hkey⟩

/-- Behind a stem that ends in a letter, a capital sigma ends a word that the stem begins. -/
example : (Binder.ofStem "a").headerKey "aΣ" = ['a', 'ς'] ∧
    (Binder.ofStem "a").headerKey "Σ" = ['a', 'σ'] := by
  decide +kernel

end Courier.Metadata
