import Courier.Proofs.Json.RoundTrip
import Courier.Proofs.Shape.Integer
import Courier.Queue.Parsing

/-! What is wrong with the body of a listing. Every defect is reported where it stands: the messages before
the links, each list item by item, each item field by field. -/

namespace Courier

section Fields

/-- What is wrong with a field that must be there. -/
def requiredFaults (es : Entries String Json) (name : String) (kinds : Json → List FaultKind) :
    List Fault :=
  match es.get? name with
  | none => [⟨[.field name], .missing⟩]
  | some v => (kinds v).map fun k => ⟨[.field name], k⟩

/-- What is wrong with a list that may be absent. -/
def listFaults (es : Entries String Json) (name : String) (item : Json → List Fault) : List Fault :=
  match es.get? name with
  | none => []
  | some (.arr xs) =>
    xs.zipIdx.flatMap fun (x, i) => (item x).map fun f => ⟨.field name :: .index i :: f.path, f.kind⟩
  | some _ => [⟨[.field name], .tupleType⟩]

/-- The key that the relation of a link is read from. -/
def relationKey (es : Entries String Json) : String :=
  if (es.get? "rel").isNone ∧ (es.get? "relation").isSome then "relation" else "rel"

end Fields

def messageFaults : Json → List Fault
  | .obj es =>
    requiredFaults es "href" textFaults ++ requiredFaults es "ttl" integerFaults ++
      requiredFaults es "body" textFaults ++ requiredFaults es "age" integerFaults
  | _ => [⟨[], .modelType⟩]

def linkFaults : Json → List Fault
  | .obj es =>
    requiredFaults es (relationKey es) textFaults ++ requiredFaults es "href" textFaults
  | _ => [⟨[], .modelType⟩]

def listingFaults : Json → List Fault
  | .obj es => listFaults es "messages" messageFaults ++ listFaults es "links" linkFaults
  | _ => [⟨[], .modelType⟩]

section Checks

variable {α : Type} {check : Json → Checked α}

theorem faults_required {kinds : Json → List FaultKind}
    (h : ∀ v, (check v).faults = Checked.atRoot (kinds v)) (es : Entries String Json)
    (name : String) :
    (Checked.required es name check).faults = requiredFaults es name kinds := by
  rw [Checked.required, Checked.faults_under, requiredFaults]
  cases es.get? name with
  | none => rfl
  | some v =>
    simp only [h, Checked.atRoot, List.map_map]
    rfl

theorem faults_optional_listOf {item : Json → List Fault} (h : ∀ v, (check v).faults = item v)
    (es : Entries String Json) (name : String) :
    (Checked.optional es name [] (Checked.listOf .tupleType check)).faults =
      listFaults es name item := by
  rw [Checked.optional, listFaults]
  cases es.get? name with
  | none => rfl
  | some v =>
    simp only [Checked.faults_under]
    cases v with
    | arr xs =>
      have heach := Checked.faults_each check 0 xs
      simp only [h] at heach
      simp only [Checked.listOf, Checked.items, Checked.bind, heach, List.map_flatMap, List.map_map]
      rfl
    | _ => rfl

theorem faults_message (v : Json) : (ListedMessage.check v).faults = messageFaults v := by
  cases v with
  | obj es =>
    simp only [ListedMessage.check, Checked.entries, Checked.bind, Checked.faults_and,
      Checked.faults_map, faults_required faults_checkText, faults_required faults_checkInt,
      messageFaults]
  | _ => rfl

theorem check_link_obj (es : Entries String Json) :
    Link.check (.obj es) =
      ((Checked.required es (relationKey es) checkText).map Link.mk).and
        (.required es "href" checkText) := by
  simp only [Link.check, Checked.entries, Checked.bind, relationKey, Checked.required]
  cases hrel : es.get? "rel" with
  | none =>
    cases hrelation : es.get? "relation" with
    | none => simp [hrel]
    | some x => simp [hrelation]
  | some x => simp [hrel]

theorem faults_link (v : Json) : (Link.check v).faults = linkFaults v := by
  cases v with
  | obj es =>
    have hcheck := check_link_obj es
    rw [hcheck]
    simp only [Checked.faults_and, Checked.faults_map, faults_required faults_checkText, linkFaults]
  | _ => rfl

theorem faults_listing (v : Json) : (Listing.check v).faults = listingFaults v := by
  cases v with
  | obj es =>
    simp only [Listing.check, Checked.entries, Checked.bind, Checked.faults_and,
      Checked.faults_map, faults_optional_listOf faults_message,
      faults_optional_listOf faults_link, listingFaults]
  | _ => rfl

theorem sound_message (v : Json) : (ListedMessage.check v).Sound := by
  refine (Checked.sound_entries v).bind fun es => ?_
  have htext := fun name => Checked.sound_required sound_checkText es name
  have hint := fun name => Checked.sound_required sound_checkInt es name
  exact ((((htext "href").map _).and (hint "ttl")).and (htext "body")).and (hint "age")

theorem sound_link (v : Json) : (Link.check v).Sound := by
  cases v with
  | obj es =>
    have htext := fun name => Checked.sound_required sound_checkText es name
    rw [check_link_obj]
    exact ((htext (relationKey es)).map _).and (htext "href")
  | _ => nofun

theorem sound_listing (v : Json) : (Listing.check v).Sound := by
  refine (Checked.sound_entries v).bind fun es => ?_
  have hmessages := Checked.sound_optional (Checked.sound_listOf sound_message .tupleType) es
    "messages" []
  have hlinks := Checked.sound_optional (Checked.sound_listOf sound_link .tupleType) es "links" []
  exact (hmessages.map _).and hlinks

/-- A check of objects that looks at no other keys. -/
def ReadsOnly {β : Type} (keys : List String) (check : Json → β) : Prop :=
  ∀ es es' : Entries String Json, (∀ k ∈ keys, es.get? k = es'.get? k) →
    check (.obj es) = check (.obj es')

theorem message_readsOnly : ReadsOnly ["href", "ttl", "body", "age"] ListedMessage.check := by
  intro es es' h
  simp only [List.forall_mem_cons] at h
  obtain ⟨hhref, httl, hbody, hage, -⟩ := h
  simp only [ListedMessage.check, Checked.entries, Checked.bind, Checked.required, hhref, httl, hbody,
    hage]

theorem link_readsOnly : ReadsOnly ["rel", "relation", "href"] Link.check := by
  intro es es' h
  simp only [List.forall_mem_cons] at h
  obtain ⟨hrel, hrelation, hhref, -⟩ := h
  simp only [Link.check, Checked.entries, Checked.bind, Checked.required, hrel, hrelation, hhref]

theorem listing_readsOnly : ReadsOnly ["messages", "links"] Listing.check := by
  intro es es' h
  simp only [List.forall_mem_cons] at h
  obtain ⟨hmessages, hlinks, -⟩ := h
  simp only [Listing.check, Checked.entries, Checked.bind, Checked.optional, hmessages, hlinks]

end Checks

/-- A body that holds JSON is decoded as its value is checked. -/
theorem decodeBody_of_json {α : Type} [Model α] {v : Json} {body : Bytes}
    (hbody : bodyJson? body = some v) (hsound : (Model.check v : Checked α).Sound) :
    ((∃ a : α, decodeBody body = .ok a) ↔ (Model.check v : Checked α).faults = []) ∧
    ((Model.check v : Checked α).faults ≠ [] →
      decodeBody (α := α) body =
        .error ⟨"cannot decode " ++ Model.title α ++ ": " ++
          toString (Model.check v : Checked α).faults.length ++ " error(s)", some body,
          some (Model.check v : Checked α).faults⟩) := by
  have hcheck : (checkBody body : Checked α) = Model.check v := by
    rw [checkBody, hbody]
  constructor
  · rw [← hsound.ok_iff, decodeBody, hcheck]
    cases (Model.check v : Checked α) with
    | ok a => simp
    | faulty fs => simp
  · intro hfaults
    rw [decodeBody, hcheck, Checked.eq_faulty hfaults]
    rfl

/-- The decoder of listings takes a value exactly if nothing is wrong with it, and otherwise reports all
that is wrong, in order; and it looks at no keys but those of the fields. -/
theorem listing_decoded {v : Json} (h : v.Fits 4299 100) :
    bodyJson? (utf8Encode v.print) = some v ∧
    (∀ body : Bytes, bodyJson? body = some v →
      ((∃ l : Listing, decodeBody body = .ok l) ↔ listingFaults v = []) ∧
      (listingFaults v ≠ [] →
        decodeBody (α := Listing) body =
          .error ⟨"cannot decode PaginatedMessages: " ++ toString (listingFaults v).length ++
            " error(s)", some body, some (listingFaults v)⟩)) ∧
    ReadsOnly ["messages", "links"] Listing.check ∧
    ReadsOnly ["href", "ttl", "body", "age"] ListedMessage.check ∧
    ReadsOnly ["rel", "relation", "href"] Link.check := by
  refine ⟨bodyJson?_encode_print (h.mono (by omega) (by omega)), ?_, listing_readsOnly,
    message_readsOnly, link_readsOnly⟩
  intro body hbody
  have hdecode := decodeBody_of_json hbody (sound_listing v)
  have hfaults : (Model.check v : Checked Listing).faults = listingFaults v := faults_listing v
  rwa [hfaults] at hdecode

namespace Listing.Sample

/-- Links with a relation under either name, with faults in one part or in all. -/
def mixedLinks : List Json :=
  [.obj [("relation", .int 1), ("href", .str "/n")],
    .obj [("relation", .int 1), ("rel", .str "next"), ("href", .str "/n")],
    .obj [("href", .null)], .str "/n"]

def mixedMessages : List Json :=
  [.obj [("href", .str "m"), ("ttl", .str " +1_0.0"), ("body", .str "é"),
      ("age", .float (.finite 2)), ("id", .str "m")],
    .obj [("age", .str "x"), ("body", .int 3), ("ttl", .float (.finite (1 / 2)))], .null]

def mixed : Json :=
  .obj [("page", .null), ("links", .arr mixedLinks), ("messages", .arr mixedMessages)]

def mixedFaults : List Fault :=
  [⟨[.field "messages", .index 1, .field "href"], .missing⟩,
    ⟨[.field "messages", .index 1, .field "ttl"], .intFromFloat⟩,
    ⟨[.field "messages", .index 1, .field "body"], .stringType⟩,
    ⟨[.field "messages", .index 1, .field "age"], .intParsing⟩,
    ⟨[.field "messages", .index 2], .modelType⟩,
    ⟨[.field "links", .index 0, .field "relation"], .stringType⟩,
    ⟨[.field "links", .index 2, .field "rel"], .missing⟩,
    ⟨[.field "links", .index 2, .field "href"], .stringType⟩,
    ⟨[.field "links", .index 3], .modelType⟩]

theorem fits_mixed : mixed.Fits 4299 100 := by
  have hlinks : ∀ l ∈ mixedLinks, Json.Fits 4299 98 l := by
    have hone : Json.Fits 4299 97 (.int 1) := .int (by decide +kernel)
    simp only [mixedLinks, List.forall_mem_cons]
    exact ⟨.obj (by simp) (by simp [Json.Fits.str, hone]),
      .obj (by simp) (by simp [Json.Fits.str, hone]),
      .obj (by simp) (by simp [Json.Fits.null]), .str _, List.forall_mem_nil _⟩
  have hmessages : ∀ m ∈ mixedMessages, Json.Fits 4299 98 m := by
    have hthree : Json.Fits 4299 97 (.int 3) := .int (by decide +kernel)
    have htwo : Json.Fits 4299 97 (.float (.finite 2)) := .float ⟨2, 0, by norm_num⟩
    have hhalf : Json.Fits 4299 97 (.float (.finite (1 / 2))) := .float ⟨1, -1, by norm_num⟩
    simp only [mixedMessages, List.forall_mem_cons]
    exact ⟨.obj (by simp) (by simp [Json.Fits.str, htwo]),
      .obj (by simp) (by simpa [Json.Fits.str, hthree] using hhalf), .null,
      List.forall_mem_nil _⟩
  exact .obj (by simp) (by simp [Json.Fits.null, Json.Fits.arr hlinks, Json.Fits.arr hmessages])

end Listing.Sample

open Listing.Sample in
theorem listing_decoded_mixed :
    mixed.Fits 4299 100 ∧
    decodeBody (α := Listing) (utf8Encode mixed.print) =
      .error ⟨"cannot decode PaginatedMessages: 9 error(s)", some (utf8Encode mixed.print),
        some mixedFaults⟩ := by
  have hfaults : listingFaults mixed = mixedFaults := by decide +kernel
  obtain ⟨hread, hdecode, -⟩ := listing_decoded fits_mixed
  have hbad := (hdecode _ hread).2 (by rw [hfaults]; exact List.cons_ne_nil _ _)
  rw [hfaults] at hbad
  exact ⟨fits_mixed, hbad⟩

end Courier
