import Courier.Proofs.Service.Storage
import Courier.Proofs.Settings.Edits
import Courier.Proofs.Settings.References
import Courier.Proofs.Shape.Checked
import Courier.Service.Queues

/-! Settings from several sources. Each field is decided by its winning source alone, so a source
that loses for a field has no part in it. -/

namespace Courier.Settings

open EnvFile (Binding Literal Edit)

namespace Sources

variable (s : Sources)

/-- The entries of the settings file. -/
def entries : List Binding :=
  match s.file with
  | some t => EnvFile.bindings t
  | none => []

/-- What the settings file says for a name in its last entry of that name. -/
def fileValue? (name : String) : Option String :=
  ((s.entries.filter (name == ·.key)).getLast?.bind Binding.value).map String.ofList

/-- The value of a name in the first source that has one. -/
def chosen? (name : String) : Option Json :=
  (s.given.get? name).or
    (((s.environment.get? name).map Json.str).or ((s.fileValue? name).map Json.str))

/-- The settings file has no references to other values. -/
def Literal : Prop := ∀ t, s.file = some t → EnvFile.Literal t.toList

end Sources

section Files

variable {s : Sources}

theorem fileValues_eq (h : s.Literal) :
    s.fileValues = (Entries.ofPairs (s.entries.map fun b => (b.key, b.value))).map
      fun e => (e.1, e.2.map String.ofList) := by
  rw [Sources.fileValues, Sources.entries]
  cases hfile : s.file with
  | none => rfl
  | some t => exact EnvFile.values_literal (h t hfile) s.environment

theorem fileValue?_eq (h : s.Literal) (name : String) :
    (s.fileValues.get? name).join = s.fileValue? name := by
  rw [fileValues_eq h, Entries.get?_map, Entries.get?_ofPairs, Sources.fileValue?, List.filter_map]
  have hlast (bs : List Binding) :
      (((bs.map fun b => (b.key, b.value)).getLast?.map (·.2)).map
        (Option.map String.ofList)).join =
        (bs.getLast?.bind Binding.value).map String.ofList := by
    rw [List.getLast?_map]
    cases bs.getLast? <;> rfl
  exact hlast _

theorem winner?_eq (h : s.Literal) (name : String) : s.winner? name = s.chosen? name := by
  rw [Sources.winner?, Sources.chosen?, fileValue?_eq h]
  cases s.given.get? name with
  | some v => rfl
  | none => cases s.environment.get? name <;> rfl

theorem fileExtras_eq (h : s.Literal) :
    s.fileExtras = (Entries.ofPairs ((s.entries.filter fun b => !fieldNames.contains b.key).map
      fun b => (b.key, b.value))).filterMap fun e =>
        if ((e.2.map String.ofList).getD "").isEmpty then none else some e.1 := by
  have hpairs : (s.entries.filter fun b => !fieldNames.contains b.key).map
      (fun b => (b.key, b.value)) = (s.entries.map fun b => (b.key, b.value)).filter
        fun e => !fieldNames.contains e.1 := by
    rw [List.filter_map]
    rfl
  rw [hpairs, ← Entries.filter_ofPairs (fun k => !fieldNames.contains k), List.filterMap_filter,
    Sources.fileExtras, fileValues_eq h, List.filterMap_map]
  congr 1
  funext e
  by_cases hfield : e.1 ∈ fieldNames <;> simp [hfield]

end Files

section Loading

variable {s s' : Sources} {v : Settings}

theorem load_congr (hwinner : ∀ name ∈ fieldNames, s'.winner? name = s.winner? name)
    (hextras : s'.extras = s.extras) : load s' = load s := by
  have hfield {α : Type} (name : String) (hname : name ∈ fieldNames) (absent : α)
      (check : Json → Checked α) : s'.field name absent check = s.field name absent check := by
    rw [Sources.field, Sources.field, hwinner name hname]
  have hfields : checkFields s' = checkFields s := by
    unfold checkFields
    rw [hfield "SERVICE_NAME" (by simp [fieldNames]), hfield "LOG_LEVEL" (by simp [fieldNames]),
      hfield "LOG_JSON_FORMAT" (by simp [fieldNames]), hfield "STORAGE_URL" (by simp [fieldNames]),
      hfield "QUEUES_URL" (by simp [fieldNames]), hfield "CLIENT_ID" (by simp [fieldNames]),
      hfield "HTTP_CLIENT_TIMEOUT" (by simp [fieldNames]),
      hfield "HTTP_CLIENT_MAX_RETRIES" (by simp [fieldNames])]
  rw [load, load, hfields, hextras]

/-- A field holds the converted value of its winning source, or its default. -/
def Filled {α : Type} (s : Sources) (name : String) (absent : α) (check : Json → Checked α)
    (a : α) : Prop :=
  match s.chosen? name with
  | some w => check w = .ok a
  | none => a = absent

structure Settled (s : Sources) (v : Settings) : Prop where
  serviceName : Filled s "SERVICE_NAME" defaults.serviceName checkText v.serviceName
  logLevel : Filled s "LOG_LEVEL" defaults.logLevel checkText v.logLevel
  logJson : Filled s "LOG_JSON_FORMAT" defaults.logJson checkBool v.logJson
  storageUrl : Filled s "STORAGE_URL" defaults.storageUrl checkText v.storageUrl
  queuesUrl : Filled s "QUEUES_URL" defaults.queuesUrl checkText v.queuesUrl
  clientId : Filled s "CLIENT_ID" defaults.clientId checkText v.clientId
  timeout : Filled s "HTTP_CLIENT_TIMEOUT" defaults.timeout checkFloat v.timeout
  maxRetries : Filled s "HTTP_CLIENT_MAX_RETRIES" defaults.maxRetries checkInt v.maxRetries

theorem filled_of_field {α : Type} {name : String} {absent a : α} {check : Json → Checked α}
    (hs : s.Literal) (h : s.field name absent check = .ok a) : Filled s name absent check a := by
  rw [Sources.field, winner?_eq hs] at h
  unfold Filled
  cases hchosen : s.chosen? name with
  | none =>
    rw [hchosen] at h
    cases h
    rfl
  | some w =>
    rw [hchosen] at h
    dsimp only at h ⊢
    cases hw : check w with
    | ok b =>
      rw [hw] at h
      cases h
      rfl
    | faulty fs =>
      rw [hw] at h
      cases h

theorem settled_of_load (hs : s.Literal) (h : load s = .ok v) : Settled s v := by
  obtain ⟨g, u, hboth, -, hv⟩ := Checked.of_and_eq_ok h
  obtain ⟨w, hfields, rfl⟩ := Checked.of_map_eq_ok hboth
  obtain rfl : v = w := hv
  obtain ⟨g8, maxRetries, h8, hmaxRetries, rfl⟩ := Checked.of_and_eq_ok hfields
  obtain ⟨g7, timeout, h7, htimeout, rfl⟩ := Checked.of_and_eq_ok h8
  obtain ⟨g6, clientId, h6, hclientId, rfl⟩ := Checked.of_and_eq_ok h7
  obtain ⟨g5, queuesUrl, h5, hqueuesUrl, rfl⟩ := Checked.of_and_eq_ok h6
  obtain ⟨g4, storageUrl, h4, hstorageUrl, rfl⟩ := Checked.of_and_eq_ok h5
  obtain ⟨g3, logJson, h3, hlogJson, rfl⟩ := Checked.of_and_eq_ok h4
  obtain ⟨g2, logLevel, h2, hlogLevel, rfl⟩ := Checked.of_and_eq_ok h3
  obtain ⟨serviceName, hserviceName, rfl⟩ := Checked.of_map_eq_ok h2
  exact ⟨filled_of_field hs hserviceName, filled_of_field hs hlogLevel, filled_of_field hs hlogJson,
    filled_of_field hs hstorageUrl, filled_of_field hs hqueuesUrl, filled_of_field hs hclientId,
    filled_of_field hs htimeout, filled_of_field hs hmaxRetries⟩

end Loading

section Overruling

variable {s s' : Sources}

/-- A change to a source that loses: to an environment variable that is no field or whose field the
caller gives, or to an entry of the file whose field the caller or the environment gives. -/
inductive Overruled (s : Sources) : Sources → Prop
  | environment {name : String} {es : Entries String String}
    (hlost : name ∉ fieldNames ∨ (s.given.get? name).isSome)
    (hsame : ∀ other, other ≠ name → es.get? other = s.environment.get? other) :
    Overruled s { s with environment := es }
  | file {name t t' : String} (hfile : s.file = some t) (hname : name ∈ fieldNames)
    (hlost : (s.given.get? name).isSome ∨ (s.environment.get? name).isSome)
    (hedit : Edit name (EnvFile.content t) (EnvFile.content t')) (hliteral : Literal t'.toList) :
    Overruled s { s with file := some t' }

theorem filter_entries_of_edit {key t t' : String} (hfile : s.file = some t)
    (hedit : Edit key (EnvFile.content t) (EnvFile.content t')) {p : Binding → Bool}
    (hp : ∀ b, b.key = key → p b = false) :
    (Sources.entries { s with file := some t' }).filter p = s.entries.filter p := by
  have hold : s.entries = EnvFile.allBindings (EnvFile.content t) := by
    rw [Sources.entries, hfile]
    exact EnvFile.bindings_eq t
  have hnew : Sources.entries { s with file := some t' } =
      EnvFile.allBindings (EnvFile.content t') := EnvFile.bindings_eq t'
  rw [hold, hnew, hedit.filter hp]

theorem chosen?_of_overruled (h : Overruled s s') {name : String} (hname : name ∈ fieldNames) :
    s'.chosen? name = s.chosen? name := by
  cases h with
  | @environment changed es hlost hsame =>
    have hfile : Sources.fileValue? { s with environment := es } name = s.fileValue? name := rfl
    rw [Sources.chosen?, Sources.chosen?, hfile]
    by_cases he : name = changed
    · subst he
      obtain ⟨v, hv⟩ := Option.isSome_iff_exists.mp (hlost.resolve_left fun hnone => hnone hname)
      rw [hv]
      rfl
    · rw [hsame name he]
  | @file changed t t' hfile hfield hlost hedit hliteral =>
    by_cases he : name = changed
    · subst he
      rw [Sources.chosen?, Sources.chosen?]
      rcases hlost with hgiven | henvironment
      · obtain ⟨v, hv⟩ := Option.isSome_iff_exists.mp hgiven
        rw [hv]
        rfl
      · obtain ⟨w, hw⟩ := Option.isSome_iff_exists.mp henvironment
        rw [hw]
        cases s.given.get? name <;> rfl
    · have hentries : (Sources.entries { s with file := some t' }).filter (name == ·.key) =
          s.entries.filter (name == ·.key) := by
        refine filter_entries_of_edit hfile hedit fun b hb => ?_
        rw [hb]
        exact beq_false_of_ne he
      rw [Sources.chosen?, Sources.chosen?, Sources.fileValue?, Sources.fileValue?, hentries]

theorem literal_of_overruled (hs : s.Literal) (h : Overruled s s') : s'.Literal := by
  cases h with
  | environment => exact hs
  | file hfile hname hlost hedit hliteral => exact fun u hu => Option.some.inj hu ▸ hliteral

theorem extras_of_overruled (hs : s.Literal) (h : Overruled s s') : s'.extras = s.extras := by
  have hliteral := literal_of_overruled hs h
  have hgiven : s'.given = s.given := by cases h <;> rfl
  have hentries : s'.entries.filter (fun b => !fieldNames.contains b.key) =
      s.entries.filter fun b => !fieldNames.contains b.key := by
    cases h with
    | environment hlost hsame => rfl
    | file hfile hname hlost hedit hliteral =>
      refine filter_entries_of_edit hfile hedit fun b hb => ?_
      rw [hb]
      simpa using hname
  have hfile : s'.fileExtras = s.fileExtras := by
    rw [fileExtras_eq hliteral, fileExtras_eq hs, hentries]
  rw [Sources.extras, Sources.extras, hfile, hgiven]

theorem load_of_overruled (hs : s.Literal) (h : Overruled s s') : load s' = load s := by
  refine load_congr (fun name hname => ?_) (extras_of_overruled hs h)
  rw [winner?_eq hs, winner?_eq (literal_of_overruled hs h)]
  exact chosen?_of_overruled h hname

end Overruling

section Clients

open Service (Client Config)

/-- What a client has from the settings: a URL without the slashes at its end, the timeout and the
retries, and the headers of its own. -/
structure MadeFrom (v : Settings) (url : String) (headers : List Header) (c : Client) : Prop where
  baseUrl : ∃ n, url.toList = c.baseUrl.toList ++ List.replicate n '/'
  noSlash : c.baseUrl.toList.getLast? ≠ some '/'
  config : c.config = { timeout := v.timeout, maxRetries := v.maxRetries }
  headers : c.defaultHeaders = headers

theorem storageOf_madeFrom (v : Settings) : MadeFrom v v.storageUrl [] (Client.storageOf v) := by
  obtain ⟨n, hn, hslash⟩ := Service.baseUrl_make v.storageUrl "object_storage" (.ofSettings v) []
  exact ⟨⟨n, hn⟩, hslash, rfl, rfl⟩

theorem queuesOf_madeFrom (v : Settings) :
    MadeFrom v v.queuesUrl [("Client-ID", v.clientId)] (Client.queuesOf v) := by
  obtain ⟨n, hn, hslash⟩ :=
    Service.baseUrl_make v.queuesUrl "queues" (.ofSettings v) [("Client-ID", v.clientId)]
  exact ⟨⟨n, hn⟩, hslash, rfl, rfl⟩

end Clients

/-- Settings from a file without references: each field is that of its winning source alone, a
change to a source that loses changes nothing, and the clients have no more than their own fields. -/
theorem sources_apart (s : Sources) (hs : s.Literal) :
    (∀ v, load s = .ok v → Settled s v ∧ MadeFrom v v.storageUrl [] (Service.Client.storageOf v) ∧
      MadeFrom v v.queuesUrl [("Client-ID", v.clientId)] (Service.Client.queuesOf v)) ∧
    ∀ s', Overruled s s' → load s' = load s :=
  ⟨fun v hv => ⟨settled_of_load hs hv, storageOf_madeFrom v, queuesOf_madeFrom v⟩,
    fun _ h => load_of_overruled hs h⟩

namespace Sample

def file (entry : String) : String := "SERVICE_NAME=svc\n" ++ entry ++ "HTTP_CLIENT_MAX_RETRIES=7\n"

/-- Sources of which the caller has one field, the environment another, and the file this one and two
more. -/
def mixed (entry : String) : Sources where
  given := [("LOG_LEVEL", .str "DEBUG")]
  environment := [("CLIENT_ID", "me"), ("client_id", "you")]
  file := some (file entry)

def settings : Settings :=
  { defaults with serviceName := "svc", logLevel := "DEBUG", clientId := "me", maxRetries := 7 }

theorem mixed_literal : (mixed "CLIENT_ID=\"old\"\n").Literal := by
  rintro t ⟨⟩
  show ¬ _ <:+: _
  decide

theorem mixed_entry : EnvFile.EntryAt "CLIENT_ID" "SERVICE_NAME=svc\n".toList
    "CLIENT_ID=\"old\"\n".toList "HTTP_CLIENT_MAX_RETRIES=7\n".toList :=
  ⟨⟨_, .line rfl (.here _)⟩, ⟨"CLIENT_ID", some "old".toList⟩, rfl, rfl⟩

theorem mixed_overruled :
    Overruled (mixed "CLIENT_ID=\"old\"\n") (mixed "CLIENT_ID=new # 2\n") := by
  have hkey : EnvFile.IsKey "CLIENT_ID" := ⟨List.all_eq_true.mp rfl, 'C', _, rfl, by decide⟩
  have hentry : EnvFile.IsEntry "CLIENT_ID"
      ("CLIENT_ID".toList ++ '=' :: ("new # 2".toList ++ ['\n'])) :=
    EnvFile.isEntry_plain hkey (by simp [EnvFile.isBreak]) (by simp [EnvFile.IsMark])
  have hedit : Edit "CLIENT_ID" (EnvFile.content (file "CLIENT_ID=\"old\"\n"))
      (EnvFile.content (file "CLIENT_ID=new # 2\n")) :=
    .rewritten mixed_entry hentry (by simp [EnvFile.IsMark])
  have hliteral : Literal (file "CLIENT_ID=new # 2\n").toList := by
    show ¬ _ <:+: _
    decide
  exact .file rfl (by simp [fieldNames]) (.inr rfl) hedit hliteral

end Sample

open Sample in
theorem sources_apart_mixed :
    (mixed "CLIENT_ID=\"old\"\n").Literal ∧ Settled (mixed "CLIENT_ID=\"old\"\n") settings ∧
      load (mixed "CLIENT_ID=new # 2\n") = .ok settings := by
  have hload : load (mixed "CLIENT_ID=\"old\"\n") = .ok settings := rfl
  have hapart := sources_apart (mixed "CLIENT_ID=\"old\"\n") mixed_literal
  exact ⟨mixed_literal, (hapart.1 settings hload).1, (hapart.2 _ mixed_overruled).trans hload⟩

namespace Sample

/-- A file whose first line leaves a quotation open. -/
def openedFile : String := "LOG_LEVEL=\"DEBUG\nSERVICE_NAME=svc\n"

def opened (entry : String) : Sources where
  environment := [("CLIENT_ID", "me")]
  file := some (openedFile ++ entry)

end Sample

open Sample in
/-- An entry with quotation marks closes the quotation that an earlier line left open, and the lines
between are lost, although the environment overrules the entry. -/
theorem entry_closes_quotation :
    EnvFile.content (openedFile ++ "CLIENT_ID=old\n") =
        openedFile.toList ++ ("CLIENT_ID=old\n".toList ++ []) ∧
      EnvFile.EntryAt "CLIENT_ID" openedFile.toList "CLIENT_ID=old\n".toList [] ∧
      EnvFile.IsEntry "CLIENT_ID" "CLIENT_ID=\"new\"\n".toList ∧
      (opened "CLIENT_ID=old\n").Literal ∧ (opened "CLIENT_ID=\"new\"\n").Literal ∧
      (opened "CLIENT_ID=old\n").environment.get? "CLIENT_ID" = some "me" ∧
      load (opened "CLIENT_ID=old\n") =
        .ok { defaults with serviceName := "svc", clientId := "me" } ∧
      load (opened "CLIENT_ID=\"new\"\n") = .ok { defaults with clientId := "me" } ∧
      load (opened "CLIENT_ID=\"new\"\n") ≠ load (opened "CLIENT_ID=old\n") := by
  have hold : load (opened "CLIENT_ID=old\n") =
      .ok { defaults with serviceName := "svc", clientId := "me" } := rfl
  have hnew : load (opened "CLIENT_ID=\"new\"\n") = .ok { defaults with clientId := "me" } := rfl
  refine ⟨rfl, ⟨⟨_, .line rfl (.line rfl (.here _))⟩, ⟨"CLIENT_ID", some "old".toList⟩, rfl, rfl⟩,
    ⟨⟨"CLIENT_ID", some "new".toList⟩, rfl, fun _ => rfl⟩, ?_, ?_, rfl, hold, hnew, ?_⟩
  · rintro t ⟨⟩
    show ¬ _ <:+: _
    decide
  · rintro t ⟨⟩
    show ¬ _ <:+: _
    decide
  · rw [hold, hnew]
    intro he
    have hname := congrArg Settings.serviceName (Checked.ok.inj he)
    exact absurd hname (by decide)

end Courier.Settings
