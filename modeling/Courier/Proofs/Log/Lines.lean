import Courier.Log.Logger
import Courier.Proofs.Entries
import Courier.Proofs.Json.Ascii
import Courier.Proofs.Json.RoundTrip

/-! The lines of a logger that writes JSON. What a line shows under a name is decided by five
sources: the call, the logger, the task, the correlation id, and the stamps of the line. -/

namespace Courier.Log

section Levels

def levelNames : Entries String Nat :=
  [("CRITICAL", 50), ("FATAL", 50), ("ERROR", 40), ("WARNING", 30), ("WARN", 30), ("INFO", 20),
    ("DEBUG", 10), ("NOTSET", 0)]

/-- The rank of a level by its name in any case, and that of `info` for any other text. -/
def rankNamed (level : String) : Nat :=
  (levelNames.get? (level.map capital)).getD Level.info.rank

theorem thresholdOf_eq_rankNamed (level : String) : thresholdOf level = rankNamed level := by
  unfold thresholdOf rankNamed
  generalize level.map capital = name
  split
  case h_8 hcritical hfatal herror hwarning hwarn hdebug hnotset =>
    by_cases hinfo : name = "INFO"
    · rw [hinfo]
      rfl
    · have hunknown : levelNames.get? name = none := by
        refine Entries.get?_eq_none_of_notMem ?_
        simpa [levelNames] using
          ⟨hcritical, hfatal, herror, hwarning, hwarn, hinfo, hdebug, hnotset⟩
      rw [hunknown]
      rfl
  all_goals rfl

end Levels

/-- Names that a call cannot give to a field, or that stand for something else in a line. -/
def ownNames : List String :=
  ["event", "service", "timestamp", "level", "exc_info", "self", "method_name"]

/-- Fields as they can be given: none twice, none under a name of the logger's own, and with values
that JSON can write. -/
structure Fields (es : Entries String Given) : Prop where
  once : (es.map (·.1)).Nodup
  named : ∀ e ∈ es, e.1 ∉ ownNames
  writable : ∀ e ∈ es, e.2.json.Writable

/-- A call of a logging method with a text that has nothing to be filled in. -/
structure Remark extends Surroundings where
  level : Level
  text : String
  fields : Entries String Given

namespace Remark

variable (r : Remark) (service : String)

def entry : Entry := ⟨r.level, .str r.text, r.fields⟩

def call : Call := ⟨r.toSurroundings, r.entry, []⟩

structure Proper : Prop where
  fields : Fields r.fields
  bound : Fields r.bound
  context : Fields r.context

/-- What is given under a name: by the call, else by the logger, else by the task. -/
def given? (name : String) : Option Given :=
  (r.fields.get? name).or ((r.bound.get? name).or (r.context.get? name))

/-- The correlation id, unless it is empty. -/
def correlation? : Option Json := (r.correlation.filter fun c => !c.isEmpty).map Json.str

/-- What the line of a remark shows under a name. -/
def reported (name : String) : Option Json :=
  if name = "level" then some (.str r.level.name)
  else if name = "timestamp" then some (.str r.timestamp)
  else if name = "service" then some (.str service)
  else if name = "event" then some (.str r.text)
  else ((r.given? name).map Given.json).or
    (if name = "correlation_id" then r.correlation? else none)

end Remark

section Stamps

variable {es : Entries String Given}

theorem get?_stampCorrelation (correlation : Option String) (name : String) :
    (stampCorrelation correlation es).get? name =
      (es.get? name).or (if name = "correlation_id" then
        (correlation.filter fun c => !c.isEmpty).map fun c => .value (.str c) else none) := by
  cases correlation with
  | none => simp [stampCorrelation]
  | some c =>
    cases hc : c.isEmpty with
    | true => simp [stampCorrelation, Option.filter, hc]
    | false => simp [stampCorrelation, Option.filter, hc, Entries.get?_putNew]

theorem get?_stampType_json (name : String) :
    ((stampType es).get? name).map Given.json = (es.get? name).map Given.json := by
  unfold stampType
  split
  · next t ht =>
    rw [Entries.get?_put]
    split_ifs with hname
    · rw [eq_of_beq hname, ht]
      rfl
    · rfl
  · rfl

theorem nodup_stampCorrelation (correlation : Option String) (h : (es.map (·.1)).Nodup) :
    ((stampCorrelation correlation es).map (·.1)).Nodup := by
  cases correlation with
  | none => exact h
  | some c =>
    rw [stampCorrelation]
    split_ifs
    · exact h
    · exact Entries.nodup_keys_putNew _ _ h

theorem nodup_stampType (h : (es.map (·.1)).Nodup) : ((stampType es).map (·.1)).Nodup := by
  unfold stampType
  split
  · exact Entries.nodup_keys_put _ _ h
  · exact h

end Stamps

section Records

variable {r : Remark} (service : String)

theorem Fields.get?_own {es : Entries String Given} (h : Fields es) {name : String}
    (hname : name ∈ ownNames) : es.get? name = none := by
  refine Entries.get?_eq_none_of_notMem fun hmem => ?_
  obtain ⟨e, he, rfl⟩ := List.mem_map.mp hmem
  exact h.named e he hname

theorem Remark.Proper.given?_own (h : r.Proper) {name : String} (hname : name ∈ ownNames) :
    r.given? name = none := by
  have hfields := h.fields.get?_own hname
  have hbound := h.bound.get?_own hname
  have hcontext := h.context.get?_own hname
  simp [given?, hfields, hbound, hcontext]

theorem get?_gather (hfields : (r.fields.map (·.1)).Nodup) (name : String) :
    (gather r.toSurroundings r.entry).get? name =
      if name = "event" then some (.value (.str r.text)) else r.given? name := by
  have hput : putEvent (.str r.text) (r.bound.update r.fields) =
      (r.bound.update r.fields).put "event" (.value (.str r.text)) := rfl
  rw [gather, Remark.entry, Entries.get?_foldl_putNew, hput, Entries.get?_put,
    Entries.get?_update r.bound hfields, Remark.given?]
  by_cases hname : name = "event"
  · simp [hname]
  · simp [hname, Option.or_assoc]

theorem get?_record (h : r.Proper) (name : String) :
    (record service r.toSurroundings r.entry).get? name = r.reported service name := by
  have hput (es : Entries String Given) (key : String) (v : Given) :
      ((es.put key v).get? name).map Given.json =
        if name = key then some v.json else (es.get? name).map Given.json := by
    rw [Entries.get?_put]
    by_cases hkey : name = key <;> simp [hkey]
  have hstamped : ((stampType (stampCorrelation r.correlation
      ((gather r.toSurroundings r.entry).put "service" (.value (.str service))))).get? name).map
        Given.json = if name = "service" then some (.str service) else
          (((gather r.toSurroundings r.entry).get? name).map Given.json).or
            (if name = "correlation_id" then r.correlation? else none) := by
    rw [get?_stampType_json, get?_stampCorrelation, Option.map_or, hput]
    by_cases hservice : name = "service"
    · simp [hservice, Given.json]
    · by_cases hcorrelation : name = "correlation_id"
      · simp [hcorrelation, Remark.correlation?, Function.comp_def, Given.json]
      · simp [hservice, hcorrelation]
  have hgather := get?_gather h.fields.once name
  have hrecord : (record service r.toSurroundings r.entry).get? name =
      if name = "exc_info" then none
      else if name = "level" then some (.str r.level.name)
      else if name = "timestamp" then some (.str r.timestamp)
      else if name = "service" then some (.str service)
      else (if name = "event" then some (.str r.text) else (r.given? name).map Given.json).or
        (if name = "correlation_id" then r.correlation? else none) := by
    rw [record, Entries.get?_map, Entries.get?_remove]
    by_cases hexc : name = "exc_info"
    · simp [hexc]
    · have hne : ¬ (name == "exc_info") = true := by simpa using hexc
      rw [if_neg hne, if_neg hexc, hput, hput, hstamped, hgather, apply_ite (Option.map Given.json)]
      rfl
  rw [hrecord, Remark.reported]
  by_cases hexc : name = "exc_info"
  · subst hexc
    have hown : r.given? "exc_info" = none := h.given?_own (by simp [ownNames])
    simp [hown]
  · rw [if_neg hexc]
    by_cases hevent : name = "event" <;> simp [hevent]

theorem nodup_gather (hbound : (r.bound.map (·.1)).Nodup) :
    ((gather r.toSurroundings r.entry).map (·.1)).Nodup := by
  have hupdate := Entries.nodup_keys_update r.fields hbound
  exact Entries.nodup_keys_foldl_putNew _ (Entries.nodup_keys_put _ _ hupdate)

theorem nodup_record (hbound : (r.bound.map (·.1)).Nodup) :
    ((record service r.toSurroundings r.entry).map (·.1)).Nodup := by
  have hservice := Entries.nodup_keys_put "service" (.value (.str service)) (nodup_gather hbound)
  have hstamped := nodup_stampType (nodup_stampCorrelation r.correlation hservice)
  have htimestamp := Entries.nodup_keys_put "timestamp" (.value (.str r.timestamp)) hstamped
  have hlevel := Entries.nodup_keys_put "level" (.value (.str r.level.name)) htimestamp
  rw [record, List.map_map]
  exact Entries.nodup_keys_remove "exc_info" hlevel

theorem Fields.writable_of_get? {es : Entries String Given} (h : Fields es) {name : String}
    {x : Given} (hx : es.get? name = some x) : x.json.Writable := by
  rw [Entries.get?, Option.map_eq_some_iff] at hx
  obtain ⟨e, he, rfl⟩ := hx
  exact h.writable e (List.mem_of_find?_eq_some he)

theorem Remark.Proper.writable_given (h : r.Proper) {name : String} {x : Given}
    (hx : r.given? name = some x) : x.json.Writable := by
  rw [given?, Option.or_eq_some_iff, Option.or_eq_some_iff] at hx
  rcases hx with hfields | ⟨-, hbound | ⟨-, hcontext⟩⟩
  · exact h.fields.writable_of_get? hfields
  · exact h.bound.writable_of_get? hbound
  · exact h.context.writable_of_get? hcontext

theorem Remark.Proper.writable_reported (h : r.Proper) {name : String} {v : Json}
    (hv : r.reported service name = some v) : v.Writable := by
  have hgiven (w : Json) (hw : (r.given? name).map Given.json = some w) : w.Writable := by
    obtain ⟨x, hx, rfl⟩ := Option.map_eq_some_iff.mp hw
    exact h.writable_given hx
  have hcorrelation (w : Json) (hw : r.correlation? = some w) : w.Writable := by
    obtain ⟨c, -, rfl⟩ := Option.map_eq_some_iff.mp hw
    exact .str c
  rw [reported] at hv
  split_ifs at hv with hlevel htimestamp hservice hevent hname
  case pos | pos | pos | pos =>
    cases hv
    exact .str _
  · rcases Option.or_eq_some_iff.mp hv with hv | ⟨-, hv⟩
    · exact hgiven v hv
    · exact hcorrelation v hv
  · exact hgiven v (by simpa using hv)

theorem writable_record (h : r.Proper) :
    (Json.obj (record service r.toSurroundings r.entry)).Writable := by
  have hnodup := nodup_record (r := r) service h.bound.once
  refine .obj hnodup fun e he => ?_
  have hreported := get?_record service h e.1
  rw [Entries.get?_eq_some_of_mem hnodup he] at hreported
  exact h.writable_reported service hreported.symm

end Records

section Lines

/-- A line reports a remark: it is visible ASCII, and every reader that admits enough digits and
depth reads it as an object that has what the remark reports under every name, and nothing else. -/
structure Reports (service : String) (r : Remark) (line : String) : Prop where
  visible : ∀ c ∈ line.toList, Visible c
  readsBack : ∃ fields : Entries String Json, (fields.map (·.1)).Nodup ∧
    (∀ name, fields.get? name = r.reported service name) ∧
    ∃ digits depth, ∀ limits : Json.Limits, digits ≤ limits.digits → depth ≤ limits.depth →
      Json.read limits line.toList = .ok (.obj fields)

/-- What a call writes: nothing below the rank of the logger, and else a line that reports it. -/
inductive Outcome (service level : String) (r : Remark) : Option String → Prop
  | quiet (h : r.level.rank < rankNamed level) : Outcome service level r none
  | said {line : String} (h : rankNamed level ≤ r.level.rank) (hline : Reports service r line) :
    Outcome service level r (some line)

variable {r : Remark} (service level : String)

theorem text_reports (h : r.Proper) :
    Reports service r (Json.obj (record service r.toSurroundings r.entry)).text := by
  have htext : (Json.obj (record service r.toSurroundings r.entry)).text.toList =
      (Json.obj (record service r.toSurroundings r.entry)).print := String.toList_ofList
  obtain ⟨digits, depth, hfits⟩ := (writable_record service h).exists_fits
  refine ⟨?_, _, nodup_record service h.bound.once, get?_record service h, digits, depth,
    fun limits hdigits hdepth => ?_⟩
  · rw [htext]
    exact Json.visible_print _
  · rw [htext]
    exact Json.read_print (hfits.mono hdigits hdepth)

theorem lineWith_plain (r : Remark) :
    (Logger.configure service level true).lineWith r.toSurroundings r.entry [] =
      .ok (if rankNamed level ≤ r.level.rank then
        some (Json.obj (record service r.toSurroundings r.entry)).text else none) := by
  have hwrites : (Logger.configure service level true).writes r.entry.level =
      decide (rankNamed level ≤ r.level.rank) := by
    rw [Logger.writes, Logger.configure, thresholdOf_eq_rankNamed, Remark.entry]
  have hline : (Logger.configure service level true).lineWith r.toSurroundings r.entry [] =
      (Logger.configure service level true).line r.toSurroundings r.entry := rfl
  have hrender : (Logger.configure service level true).render r.toSurroundings r.entry =
      .ok (Json.obj (record service r.toSurroundings r.entry)).text := rfl
  rw [hline, Logger.line, hwrites, hrender]
  by_cases hlevel : rankNamed level ≤ r.level.rank
  · simp [hlevel, Except.map]
  · simp [hlevel]

theorem lineWith_outcome (h : r.Proper) :
    ∃ o, (Logger.configure service level true).lineWith r.toSurroundings r.entry [] = .ok o ∧
      Outcome service level r o := by
  refine ⟨_, lineWith_plain service level r, ?_⟩
  by_cases hlevel : rankNamed level ≤ r.level.rank
  · rw [if_pos hlevel]
    exact .said hlevel (text_reports service h)
  · rw [if_neg hlevel]
    exact .quiet (Nat.lt_of_not_le hlevel)

/-- Along any calls of a logger that writes JSON, none fails, and each writes nothing if its level
is below that of the logger, and otherwise one line that reports it. The values that are reported
are those that a program can write, within the bounds of `Json.text`. -/
theorem run_outcomes (remarks : List Remark) (h : ∀ r ∈ remarks, r.Proper) :
    ∃ outcomes, (Logger.configure service level true).run (remarks.map Remark.call) = .ok outcomes ∧
      List.Forall₂ (Outcome service level) remarks outcomes := by
  induction remarks with
  | nil => exact ⟨[], rfl, .nil⟩
  | cons r remarks ih =>
    obtain ⟨o, ho, hr⟩ := lineWith_outcome service level (h r List.mem_cons_self)
    obtain ⟨os, hos, hrest⟩ := ih fun x hx => h x (List.mem_cons_of_mem _ hx)
    refine ⟨o :: os, ?_, .cons hr hrest⟩
    rw [Logger.run] at hos ⊢
    rw [List.map_cons, List.mapM_cons, hos]
    simp only [Remark.call, ho]
    rfl

end Lines

namespace Sample

/-- A remark whose sources collide, in a text that has to be escaped. -/
def collision : Remark where
  level := .warning
  text := "first line\nthe \"second\" 😀"
  fields :=
    [("id", .value (.int 1)), ("event_type", .type .retry), ("correlation_id", .value .null)]
  bound := [("id", .value (.int 2)), ("user", .value (.str "ü"))]
  context := [("user", .value (.str "nobody")), ("tags", .value (.arr [.bool true]))]
  correlation := some "c-1"
  timestamp := "2024-01-01T00:00:00Z"

def murmur : Remark where
  level := .info
  text := ""
  fields := []
  correlation := some "c-2"
  timestamp := "2024-01-01T00:00:01Z"

theorem collision_proper : collision.Proper := by
  have htags : (Json.arr [.bool true]).Writable := .arr (by simpa using Json.Writable.bool true)
  refine ⟨⟨by decide, by decide, ?_⟩, ⟨by decide, by decide, ?_⟩, ⟨by decide, by decide, ?_⟩⟩
  · simp [collision, Given.json, Json.Writable.int, Json.Writable.str, Json.Writable.null]
  · simp [collision, Given.json, Json.Writable.int, Json.Writable.str]
  · simpa [collision, Given.json, Json.Writable.str] using htags

theorem murmur_proper : murmur.Proper := by
  have hnone : Fields [] := ⟨List.nodup_nil, nofun, nofun⟩
  exact ⟨hnone, hnone, hnone⟩

end Sample

open Sample in
theorem run_outcomes_collision :
    (∀ r ∈ [collision, murmur, collision], r.Proper) ∧
      ∃ outcomes, (Logger.configure "svc" "warn" true).run
          ([collision, murmur, collision].map Remark.call) = .ok outcomes ∧
        List.Forall₂ (Outcome "svc" "warn") [collision, murmur, collision] outcomes := by
  have hproper : ∀ r ∈ [collision, murmur, collision], r.Proper := by
    simp [collision_proper, murmur_proper]
  exact ⟨hproper, run_outcomes "svc" "warn" _ hproper⟩

end Courier.Log
