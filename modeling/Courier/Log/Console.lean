import Courier.Json.Literal

/-! Records as coloured lines for a terminal. -/

namespace Courier.Log.Console

def reset : String := "\x1b[0m"

def dim : String := "\x1b[2m"

def bright : String := "\x1b[1m"

def red : String := "\x1b[31m"

def green : String := "\x1b[32m"

def yellow : String := "\x1b[33m"

def blue : String := "\x1b[34m"

def magenta : String := "\x1b[35m"

def cyan : String := "\x1b[36m"

def levelColour (level : String) : String :=
  if level == "debug" || level == "info" then green
  else if level == "warning" then yellow
  else if level == "error" || level == "critical" then red
  else ""

/-- A text filled with spaces up to a width. -/
def pad (width : Nat) (s : String) : String :=
  s ++ String.ofList (List.replicate (width - s.length) ' ')

/-- Plain text, unless something in it needs quotes. -/
def plainOrQuoted (v : Json) : String :=
  match v with
  | .str s => if s.toList.any (" \t=\r\n\"'".toList.contains ·) then quoted s else s
  | v => v.literal

/-- The columns at the front of a line: a key and how its value is shown. -/
def columns : List (String × (Json → String)) := [
  ("timestamp", fun v => dim ++ v.display ++ reset),
  ("level", fun v =>
    "[" ++ levelColour v.display ++ bright ++ pad 9 v.display ++ reset ++ "]"),
  ("event", fun v => bright ++ pad 30 v.display ++ reset),
  ("logger", fun v => "[" ++ reset ++ bright ++ blue ++ v.display ++ reset ++ "]" ++ reset),
  ("logger_name", fun v => "[" ++ reset ++ bright ++ blue ++ v.display ++ reset ++ "]" ++ reset)]

def field (e : String × Json) : String :=
  cyan ++ e.1 ++ reset ++ "=" ++ magenta ++ plainOrQuoted e.2 ++ reset

/-- A text that follows the line on lines of its own; what is not text cannot follow. -/
def below (v : Option Json) : Except String (Option String) :=
  match v with
  | none => .ok none
  | some .null => .ok none
  | some (.str s) => .ok (some s)
  | some v => .error ("can only concatenate str (not \"" ++ v.kindName ++ "\") to str")

/-- The line of a record: the columns, the other fields by key, and below them the stack and the
exception. -/
def line (es : Entries String Json) : Except String String := do
  let front := columns.filterMap fun (k, view) => (es.get? k).map view
  let shown := columns.map (·.1) ++ ["stack", "exception"]
  let rest := (es.filter fun e => !shown.contains e.1).mergeSort fun a b => decide (a.1 ≤ b.1)
  let stack ← below (es.get? "stack")
  let thrown ← below (es.get? "exception")
  let rule := "\n\n" ++ String.ofList (List.replicate 79 '=') ++ "\n"
  .ok (" ".intercalate (front ++ rest.map field) ++
    (match stack with
      | some s => "\n" ++ s ++ (if thrown.isSome then rule else "")
      | none => "") ++
    (match thrown with
      | some s => "\n" ++ s
      | none => ""))

end Courier.Log.Console
