import SignedControl.Parameter.Basic

/-!
# The parameter table

A table holds one value for every parameter. Setting a parameter checks the value first, so that a
refused value changes nothing.

* `get?_put`: what a table holds after a value has been stored.
* `parameters_put`: storing keeps the entries and their order.
-/

namespace SignedControl

/-- The parameters of a node with their values, in the order of their names. -/
structure ParameterTable where
  /-- The entries. -/
  entries : List (Parameter × ParameterValue)
deriving DecidableEq

namespace ParameterTable

/-- The table with every parameter at its default. -/
def initial : ParameterTable := ⟨Parameter.all.map fun p => (p, p.initial)⟩

/-- The parameters of the entries. -/
def parameters (t : ParameterTable) : List Parameter := t.entries.map (·.1)

/-- The value of a parameter. -/
def get? (t : ParameterTable) (p : Parameter) : Option ParameterValue :=
  (t.entries.find? fun e => e.1 = p).map (·.2)

/-- The table with another value for a parameter. -/
def put (t : ParameterTable) (p : Parameter) (v : ParameterValue) : ParameterTable :=
  ⟨t.entries.map fun e => if e.1 = p then (p, v) else e⟩

/-- Reads a value for the parameter with a name and stores it. -/
def set (t : ParameterTable) (name value : String) : Except ParameterError ParameterTable :=
  match Parameter.ofName? name with
  | none => .error (.unknown name)
  | some p => (p.parse value).map (t.put p)

/-- Sets a parameter if the value is taken, and says whether it was. -/
def setByName (t : ParameterTable) (name value : String) : Bool × ParameterTable :=
  match t.set name value with
  | .ok t' => (true, t')
  | .error _ => (false, t)

/-- The value of the parameter with a name. -/
def getByName? (t : ParameterTable) (name : String) : Option ParameterValue :=
  (Parameter.ofName? name).bind t.get?

/-- The lock level. A table without one counts as unlocked. -/
def lockLevel (t : ParameterTable) : UInt8 :=
  match t.get? .lockLevel with
  | some (.uint8 n) => n
  | _ => 0

@[simp] theorem parameters_initial : initial.parameters = Parameter.all := by
  simp [initial, parameters, Function.comp_def]

@[simp] theorem parameters_put (t : ParameterTable) (p : Parameter) (v : ParameterValue) :
    (t.put p v).parameters = t.parameters := by
  simp only [parameters, put, List.map_map]
  congr 1
  funext e
  simp only [Function.comp_apply]
  split
  · next h => exact h.symm
  · rfl

theorem get?_put (t : ParameterTable) (p q : Parameter) (v : ParameterValue) :
    (t.put p v).get? q = if q = p ∧ q ∈ t.parameters then some v else t.get? q := by
  obtain ⟨entries⟩ := t
  simp only [get?, put, parameters]
  induction entries with
  | nil => simp
  | cons e entries ih =>
    obtain ⟨r, w⟩ := e
    by_cases hrp : r = p
    · subst hrp
      by_cases hqr : q = r
      · subst hqr; simp
      · have hrq : r ≠ q := fun h => hqr h.symm
        simp only [List.map_cons, List.find?_cons, if_true, hrq, decide_false, hqr, false_and,
          if_false] at ih ⊢
        exact ih
    · by_cases hrq : r = q
      · subst hrq
        simp [hrp]
      · have hqr : q ≠ r := fun h => hrq h.symm
        simp only [List.map_cons, if_neg hrp, List.find?_cons, hrq, decide_false, List.mem_cons,
          hqr, false_or] at ih ⊢
        exact ih

end ParameterTable

end SignedControl
