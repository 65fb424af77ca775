import Courier.Proofs.Entries
import Courier.Proofs.Metadata.Header

/-! What a binder refuses: a missing request before anything else, then metadata that is no mapping,
and then the first entry of a mapping that does not put text under text. -/

namespace Courier.Metadata

/-- A key and a value that are both text. -/
def IsTextEntry (e : Json × Json) : Prop := ∃ k v, e = (.str k, .str v)

/-- Arguments that no binder takes, what is wrong with them, and the words for it. -/
inductive Refused {ε η : Type} :
    Option (HttpRequest ε η) → Offered → ArgumentFault → String → Prop
  | noRequest (m : Offered) : Refused none m .noRequest "request must not be None"
  | notMapping (r : HttpRequest ε η) (v : Json) :
    Refused (some r) (.other v) (.notMapping v.kindName)
      ("metadata must be a mapping of str to str, got " ++ v.kindName)
  | badEntry (r : HttpRequest ε η) (good : List (String × String)) {k v : Json}
    (later : List (Json × Json)) (hbad : ¬ IsTextEntry (k, v)) :
    Refused (some r) (.mapping (good.map (fun e => (.str e.1, .str e.2)) ++ (k, v) :: later))
      (.badEntry k v)
      ("metadata must be a mapping of str to str, got " ++ k.literal ++ ": " ++ v.literal)

section Entries

variable {k v : Json}

theorem textEntries_bad (hbad : ¬ IsTextEntry (k, v)) (later : List (Json × Json)) :
    Binder.textEntries ((k, v) :: later) = .error (.badEntry k v) := by
  rw [Binder.textEntries]
  rintro s t rfl rfl
  exact hbad ⟨s, t, rfl⟩

theorem textEntries_first_bad (good : List (String × String)) (hbad : ¬ IsTextEntry (k, v))
    (later : List (Json × Json)) :
    Binder.textEntries (good.map (fun e => (.str e.1, .str e.2)) ++ (k, v) :: later) =
      .error (.badEntry k v) := by
  induction good with
  | nil => exact textEntries_bad hbad later
  | cons e good ih =>
    rw [List.map_cons, List.cons_append, Binder.textEntries, ih]
    rfl

/-- A mapping is all text, or has a first entry that is not. -/
theorem texts_or_first_bad (es : List (Json × Json)) :
    (∃ texts : List (String × String), es = texts.map fun e => (.str e.1, .str e.2)) ∨
      ∃ (good : List (String × String)) (k v : Json) (later : List (Json × Json)),
        es = good.map (fun e => (.str e.1, .str e.2)) ++ (k, v) :: later ∧ ¬ IsTextEntry (k, v) := by
  induction es with
  | nil => exact .inl ⟨[], rfl⟩
  | cons e es ih =>
    by_cases he : IsTextEntry e
    · obtain ⟨s, t, rfl⟩ := he
      rcases ih with ⟨texts, rfl⟩ | ⟨good, k, v, later, rfl, hbad⟩
      · exact .inl ⟨(s, t) :: texts, rfl⟩
      · exact .inr ⟨(s, t) :: good, k, v, later, rfl, hbad⟩
    · exact .inr ⟨[], e.1, e.2, es, rfl, he⟩

end Entries

section Binding

variable {ε η : Type} {request : Option (HttpRequest ε η)} {m : Offered}

theorem Refused.bind_eq {f : ArgumentFault} {text : String} (h : Refused request m f text)
    (b : Binder) : b.bind request m = .error f ∧ f.message = text := by
  cases h with
  | noRequest => exact ⟨rfl, rfl⟩
  | notMapping => exact ⟨rfl, rfl⟩
  | badEntry r good later hbad =>
    refine ⟨?_, rfl⟩
    rw [Binder.bind, Binder.checkMetadata, textEntries_first_bad good hbad later]
    rfl

theorem taken_or_refused (request : Option (HttpRequest ε η)) (m : Offered) :
    (∃ r texts, request = some r ∧ m = .ofTexts texts) ∨ ∃ f text, Refused request m f text := by
  cases request with
  | none => exact .inr ⟨_, _, .noRequest m⟩
  | some r =>
    cases m with
    | other v => exact .inr ⟨_, _, .notMapping r v⟩
    | mapping es =>
      rcases texts_or_first_bad es with ⟨texts, rfl⟩ | ⟨good, k, v, later, rfl, hbad⟩
      · exact .inl ⟨r, texts, rfl, rfl⟩
      · exact .inr ⟨_, _, .badEntry r good later hbad⟩

theorem refused_iff :
    (∃ f text, Refused request m f text) ↔
      request = none ∨ (∃ v, m = .other v) ∨
        ∃ es, m = .mapping es ∧ ∃ e ∈ es, ¬ IsTextEntry e := by
  constructor
  · rintro ⟨f, text, h⟩
    cases h with
    | noRequest => exact .inl rfl
    | notMapping r v => exact .inr (.inl ⟨v, rfl⟩)
    | badEntry r good later hbad => exact .inr (.inr ⟨_, rfl, _, by simp, hbad⟩)
  · intro h
    refine (taken_or_refused request m).resolve_left ?_
    rintro ⟨r, texts, rfl, rfl⟩
    rcases h with h | ⟨v, h⟩ | ⟨es, h, e, he, hbad⟩
    · cases h
    · cases h
    · cases h
      obtain ⟨t, -, rfl⟩ := List.mem_map.mp he
      exact hbad ⟨_, _, rfl⟩

theorem bind_eq_error_iff {b : Binder} {f : ArgumentFault} :
    b.bind request m = .error f ↔ ∃ text, Refused request m f text := by
  constructor
  · intro hf
    rcases taken_or_refused request m with ⟨r, texts, rfl, rfl⟩ | ⟨f', text, h⟩
    · rw [b.bind_texts] at hf
      cases hf
    · have hf' := (h.bind_eq b).1
      rw [hf] at hf'
      cases hf'
      exact ⟨text, h⟩
  · rintro ⟨text, h⟩
    exact (h.bind_eq b).1

end Binding

/-- A binder refuses a missing request, metadata that is no mapping, and a mapping with an entry that is
not text under text, and nothing else. It names the first of these faults, of a mapping the first such
entry; all other metadata gives one header for each entry. A mapping made of pairs has its keys in the
places where they came first, with the values that came last. The words for an entry hold the
literals of its key and its value, which a program can write within the bounds of `Json.literal`. -/
theorem bind_refuses_iff {ε η : Type} (b : Binder) (request : Option (HttpRequest ε η))
    (m : Offered) :
    ((∃ f, b.bind request m = .error f) ↔
      request = none ∨ (∃ v, m = .other v) ∨
        ∃ es, m = .mapping es ∧ ∃ e ∈ es, ¬ IsTextEntry e) ∧
    (∀ f text, (b.bind request m = .error f ∧ f.message = text) ↔ Refused request m f text) ∧
    (∀ r es, request = some r → m = .mapping es → (∀ e ∈ es, IsTextEntry e) →
      ∃ texts : List (String × String), es = texts.map (fun e => (.str e.1, .str e.2)) ∧
        b.bind request m =
          .ok (r.replaceHeaders (texts.map b.header), b.boundEntry texts.length)) ∧
    ∀ pairs, Offered.ofPairs pairs = .mapping (Entries.firstPlaces Json.same [] pairs) := by
  refine ⟨?_, fun f text => ⟨?_, fun h => h.bind_eq b⟩, ?_, fun pairs => ?_⟩
  · rw [← refused_iff]
    exact exists_congr fun f => bind_eq_error_iff
  · rintro ⟨hf, rfl⟩
    obtain ⟨text, h⟩ := bind_eq_error_iff.mp hf
    obtain ⟨-, rfl⟩ := h.bind_eq b
    exact h
  · rintro r es rfl rfl hes
    rcases texts_or_first_bad es with ⟨texts, rfl⟩ | ⟨good, k, v, later, rfl, hbad⟩
    · exact ⟨texts, rfl, b.bind_texts r texts⟩
    · exact absurd (hes (k, v) (by simp)) hbad
  · rw [Offered.ofPairs, Entries.ofPairsBy_eq_firstPlaces]

/-- Of equal keys the first one is named, with the last value. -/
example : (Binder.checkMetadata (.ofPairs
      [(.str "k", .str "v"), (.int 1, .str "a"), (.str "l", .null), (.bool true, .str "b'\n")])
    |>.mapError ArgumentFault.message) =
      .error "metadata must be a mapping of str to str, got 1: \"b'\\n\"" := by
  decide +kernel

end Courier.Metadata
