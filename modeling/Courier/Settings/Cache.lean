import Courier.Settings.Basic

/-! Settings kept after the first time that they were loaded. -/

namespace Courier.Settings

/-- The kept settings with the number of the object that holds them, and how many objects were made
before. -/
structure Cache where
  kept : Option (Nat × Settings) := none
  made : Nat := 0
  deriving Repr

namespace Cache

/-- Forgets what is kept. -/
def clear (c : Cache) : Cache := { c with kept := none }

/-- The kept settings or, if there are none, those of the sources, which are then kept. Settings that
fail to load are not. -/
def get (c : Cache) (s : Sources) : Checked (Nat × Settings) × Cache :=
  match c.kept with
  | some k => (.ok k, c)
  | none =>
    match load s with
    | .ok v => (.ok (c.made, v), ⟨some (c.made, v), c.made + 1⟩)
    | .faulty fs => (.faulty fs, c)

end Cache

/-- A change of the sources, a use of the cache, or its clearing. -/
inductive CacheStep where
  /-- Sets or unsets variables, and replaces the file if one is given. -/
  | change (environment : List (String × Option String)) (file : Option String)
  /-- Takes the file away. -/
  | removeFile
  | clear
  | get
  deriving Repr

/-- The environment after a change: `none` unsets a variable. -/
def changeEnvironment (es : Entries String String) (changes : List (String × Option String)) :
    Entries String String :=
  changes.foldl (fun es (k, v) => match v with
    | some v => es.put k v
    | none => es.remove k) es

/-- The sources after a step. -/
def CacheStep.sources (step : CacheStep) (s : Sources) : Sources :=
  match step with
  | .change es file =>
    { s with environment := changeEnvironment s.environment es, file := file.orElse fun _ => s.file }
  | .removeFile => { s with file := none }
  | .clear | .get => s

/-- One step over the sources and the cache, with the answer if it was a use. -/
def CacheStep.run (step : CacheStep) (s : Sources) (c : Cache) :
    Option (Checked (Nat × Settings)) × Sources × Cache :=
  match step with
  | .change .. | .removeFile => (none, step.sources s, c)
  | .clear => (none, step.sources s, c.clear)
  | .get =>
    let (answer, c) := c.get s
    (some answer, step.sources s, c)

/-- The answers of steps one after another. -/
def runCacheSteps (s : Sources) (c : Cache) : List CacheStep → List (Option (Checked (Nat × Settings)))
  | [] => []
  | step :: steps =>
    let (answer, s, c) := step.run s c
    answer :: runCacheSteps s c steps

end Courier.Settings
