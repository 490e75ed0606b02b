import SignedControl.Command.Operation
import SignedControl.Parameter.Table
import SignedControl.Text.Split
import SignedControl.Text.Utf8

/-!
# Configuration changes

The payload of a configuration change is UTF-8 text: `NAME=VALUE` entries between NUL characters.
Entries without an equals sign, empty ones among them, are passed over. The entries are applied one
after another; one that the table refuses makes the change as a whole fail, and hinders none of the
others.
-/

namespace SignedControl

/-- The names and values of a payload, unless it is not UTF-8. -/
def configEntries? (payload : Bytes) : Option (List (String × String)) :=
  (Text.Utf8.decode payload).map fun text =>
    (Text.fields (Char.ofNat 0) text).filterMap fun entry =>
      (Text.cut? '=' entry).map fun (name, value) => (String.ofList name, String.ofList value)

namespace ParameterTable

/-- The table after a list of entries, and whether it took all of them. -/
def applyEntries (t : ParameterTable) : List (String × String) → Bool × ParameterTable
  | [] => (true, t)
  | (name, value) :: entries =>
    let (taken, t) := t.setByName name value
    let (others, t) := t.applyEntries entries
    (taken && others, t)

/-- The table after a configuration change, and the change's result. -/
def applyConfig (t : ParameterTable) (payload : Bytes) : CommandResult × ParameterTable :=
  match configEntries? payload with
  | none => (.failed, t)
  | some entries =>
    let (taken, t) := t.applyEntries entries
    (if taken then .accepted else .failed, t)

end ParameterTable

end SignedControl
