import SignedControl.Text.Split
import SignedControl.Text.Terminal

/-!
# What tools report

A tool writes log lines while it runs. If it gives up, it says what it could not do and why, each
cause followed by its own: on one line in a log, or as a paragraph at the end.
-/

namespace SignedControl.Tool

/-- How grave a log line is. -/
inductive Level where
  /-- For information. -/
  | info
  /-- A warning. -/
  | warn
  /-- An error. -/
  | error
deriving DecidableEq, Repr

/-- The word for a level. -/
def Level.name : Level → String
  | .info => "INFO"
  | .warn => "WARN"
  | .error => "ERROR"

/-- A line of a log. -/
structure LogLine where
  /-- How grave it is. -/
  level : Level
  /-- What it says. -/
  message : String
deriving DecidableEq, Repr

/-- A line as it is shown. Its message can give a terminal no order. -/
def LogLine.shown (l : LogLine) : String := l.level.name ++ " " ++ Text.withoutOrders l.message

/-- A line for information. -/
def info (message : String) : LogLine := ⟨.info, message⟩

/-- A warning. -/
def warn (message : String) : LogLine := ⟨.warn, message⟩

/-- Why a tool has given up. -/
structure Failure where
  /-- What it could not do. -/
  message : String
  /-- The causes, each followed by its own. -/
  causes : List String
deriving DecidableEq, Repr

namespace Failure

/-- A failure on one line. -/
def inline (f : Failure) : String := String.intercalate ": " (f.message :: f.causes)

/-- A cause with `lead` in front of its first line and `margin` in front of the others. -/
def indented (lead margin cause : String) : String :=
  lead ++ String.intercalate ("\n" ++ margin) ((Text.fields '\n' cause.toList).map String.ofList)

/-- A number in front of a cause, in a column of five. -/
def numbered (n : Nat) : String :=
  let digits := toString n
  String.ofList (List.replicate (5 - digits.length) ' ') ++ digits ++ ": "

/-- The causes, a line each. A single one is not numbered. -/
def causeLines : List String → List String
  | [cause] => [indented "    " "    " cause]
  | causes => causes.zipIdx.map fun (cause, n) => indented (numbered n) "       " cause

/-- A failure as a paragraph. -/
def paragraph (f : Failure) : String :=
  let head := "Error: " ++ f.message
  if f.causes.isEmpty then head
  else String.intercalate "\n" (head :: "" :: "Caused by:" :: causeLines f.causes)

end Failure

/-- What a tool has written to its log, and what it has come to. -/
structure Report (α : Type) where
  /-- The log. -/
  log : List LogLine
  /-- The result. -/
  result : Except Failure α

end SignedControl.Tool
