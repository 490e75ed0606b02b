import Mathlib.Data.List.Induction
import SignedControl.Parameter.Table
import SignedControl.Proofs.Parameter.Value

/-!
# What holds of a parameter table throughout

A table starts with every parameter at its first value and changes by calls that set a parameter,
with any name and any text for a value.

* `ParameterTable.Valid`: one entry for every parameter, in their order, with a value of its kind.
  `valid_initial` and `Valid.put` are the start and the step, `valid_after` is every run.
* `ParameterTable.get?_after`: a parameter has the value that was last taken for it, or its first.
* `ParameterTable.after_invariant`: both of these in terms of names and calls, what a call changes,
  and the lock level, which is never missing.
-/

namespace SignedControl

namespace Parameter

variable {p : Parameter} {name : String}

/-- The names are in increasing order, so no two are the same. -/
theorem pairwise_name : (all.map Parameter.name).Pairwise (· < ·) := by decide

theorem ofName?_name (p : Parameter) : ofName? p.name = some p := by cases p <;> decide

theorem ofName?_eq_some_iff : ofName? name = some p ↔ p.name = name := by
  constructor
  · intro h
    simpa using List.find?_some h
  · rintro rfl
    exact p.ofName?_name

theorem name_injective : Function.Injective Parameter.name := fun p q h =>
  Option.some.inj (by rw [← p.ofName?_name, h, q.ofName?_name])

end Parameter

namespace ParameterTable

variable {t t' : ParameterTable} {p : Parameter} {v : ParameterValue}

/-! ## Calls -/

/-- A call that sets a parameter. -/
inductive Call where
  /-- A call that says what was wrong. -/
  | set (name value : String)
  /-- A call that says whether the value was taken. -/
  | setByName (name value : String)

namespace Call

/-- The name of the parameter to set. -/
def name : Call → String
  | set name _ => name
  | setByName name _ => name

/-- The text of the value. -/
def value : Call → String
  | set _ value => value
  | setByName _ value => value

/-- The value that a call has a table take for a parameter. -/
def taken? (c : Call) (p : Parameter) : Option ParameterValue :=
  if p.name = c.name then (p.parse c.value).toOption else none

end Call

/-- The table after a call. -/
def perform (t : ParameterTable) : Call → ParameterTable
  | .set name value => (t.set name value).toOption.getD t
  | .setByName name value => (t.setByName name value).2

/-- The table after some calls, from the start. -/
def after (calls : List Call) : ParameterTable := calls.foldl perform initial

theorem after_concat (calls : List Call) (c : Call) :
    after (calls ++ [c]) = (after calls).perform c := by
  rw [after, List.foldl_append]
  rfl

/-! ## What a call does -/

theorem set_eq_ok_iff {name value : String} :
    t.set name value = .ok t' ↔
      ∃ p v, p.name = name ∧ p.parse value = .ok v ∧ t' = t.put p v := by
  unfold set
  constructor
  · intro h
    split at h
    · cases h
    · next p hp =>
      obtain ⟨v, hv, rfl⟩ := Parameter.exists_of_map_eq_ok h
      exact ⟨p, v, Parameter.ofName?_eq_some_iff.mp hp, hv, rfl⟩
  · rintro ⟨p, v, rfl, hv, rfl⟩
    rw [p.ofName?_name]
    dsimp only
    rw [hv]
    rfl

/-- Both calls do the same to a table. -/
theorem perform_eq (t : ParameterTable) (c : Call) :
    t.perform c = (t.set c.name c.value).toOption.getD t := by
  cases c with
  | set name value => rfl
  | setByName name value =>
    simp only [perform, setByName, Call.name, Call.value]
    cases t.set name value <;> rfl

theorem perform_of_ok {c : Call} (h : t.set c.name c.value = .ok t') : t.perform c = t' := by
  rw [perform_eq, h]
  rfl

theorem perform_of_error {c : Call} {e : ParameterError} (h : t.set c.name c.value = .error e) :
    t.perform c = t := by
  rw [perform_eq, h]
  rfl

theorem taken?_eq_some_iff {c : Call} :
    c.taken? p = some v ↔ p.name = c.name ∧ p.parse c.value = .ok v := by
  unfold Call.taken?
  split
  · next h => cases p.parse c.value <;> simp [h, Except.toOption]
  · next h => simp [h]

/-- A call is taken for one parameter at most. -/
theorem taken?_of_ne {c : Call} {q : Parameter} (h : c.taken? p = some v) (hq : q ≠ p) :
    c.taken? q = none := by
  refine if_neg fun hname => hq (Parameter.name_injective ?_)
  exact hname.trans (taken?_eq_some_iff.mp h).1.symm

theorem set_eq_ok_iff_taken? {c : Call} :
    t.set c.name c.value = .ok t' ↔ ∃ p v, c.taken? p = some v ∧ t' = t.put p v := by
  simp only [set_eq_ok_iff, taken?_eq_some_iff, and_assoc]

theorem taken?_of_error {c : Call} {e : ParameterError} (h : t.set c.name c.value = .error e)
    (p : Parameter) : c.taken? p = none := by
  rw [Option.eq_none_iff_forall_ne_some]
  intro v hv
  rw [set_eq_ok_iff_taken?.mpr ⟨p, v, hv, rfl⟩] at h
  cases h

/-! ## Valid tables -/

/-- A table with one entry for every parameter, in their order, with a value of its kind. -/
structure Valid (t : ParameterTable) : Prop where
  /-- The parameters are all there, in their order. -/
  parameters_eq : t.parameters = Parameter.all
  /-- Their values are of their kinds. -/
  allows : ∀ e ∈ t.entries, e.1.kind.Allows e.2

theorem valid_initial : initial.Valid := by
  refine ⟨parameters_initial, fun e he => ?_⟩
  obtain ⟨p, -, rfl⟩ := List.mem_map.mp he
  exact p.allows_initial

namespace Valid

theorem names (h : t.Valid) :
    t.entries.map (·.1.name) = Parameter.all.map Parameter.name ∧
      (t.entries.map (·.1.name)).Pairwise (· < ·) := by
  have heq : t.entries.map (·.1.name) = Parameter.all.map Parameter.name := by
    rw [← h.parameters_eq, parameters, List.map_map]
    rfl
  exact ⟨heq, heq ▸ Parameter.pairwise_name⟩

theorem allows_of_get? (h : t.Valid) (hp : t.get? p = some v) : p.kind.Allows v := by
  obtain ⟨e, he, rfl⟩ := Option.map_eq_some_iff.mp hp
  have hep : e.1 = p := by simpa using List.find?_some he
  exact hep ▸ h.allows e (List.mem_of_find?_eq_some he)

theorem put (h : t.Valid) (hv : p.kind.Allows v) : (t.put p v).Valid := by
  refine ⟨(parameters_put t p v).trans h.parameters_eq, fun e he => ?_⟩
  obtain ⟨e', he', rfl⟩ := List.mem_map.mp he
  split
  · exact hv
  · exact h.allows e' he'

theorem perform (h : t.Valid) (c : Call) : (t.perform c).Valid := by
  cases hset : t.set c.name c.value with
  | error e => rwa [perform_of_error hset]
  | ok t' =>
    rw [perform_of_ok hset]
    obtain ⟨p, v, htaken, rfl⟩ := set_eq_ok_iff_taken?.mp hset
    exact h.put (Parameter.allows_of_parse (taken?_eq_some_iff.mp htaken).2)

/-- Storing a value changes that parameter only. -/
theorem get?_put (h : t.Valid) (p q : Parameter) (v : ParameterValue) :
    (t.put p v).get? q = if q = p then some v else t.get? q := by
  rw [ParameterTable.get?_put, h.parameters_eq]
  simp only [q.mem_all, and_true]

theorem get?_perform (h : t.Valid) (c : Call) (q : Parameter) :
    (t.perform c).get? q = (c.taken? q).or (t.get? q) := by
  cases hset : t.set c.name c.value with
  | error e => rw [perform_of_error hset, taken?_of_error hset, Option.none_or]
  | ok t' =>
    rw [perform_of_ok hset]
    obtain ⟨p, v, htaken, rfl⟩ := set_eq_ok_iff_taken?.mp hset
    rw [h.get?_put]
    split
    · next hq =>
      subst hq
      rw [htaken, Option.some_or]
    · next hq =>
      rw [taken?_of_ne htaken hq, Option.none_or]

end Valid

/-! ## Every run -/

theorem valid_after (calls : List Call) : (after calls).Valid := by
  induction calls using List.reverseRecOn with
  | nil => exact valid_initial
  | append_singleton calls c ih => exact after_concat calls c ▸ ih.perform c

theorem get?_initial (p : Parameter) : initial.get? p = some p.initial := by cases p <;> rfl

/-- A parameter has the value that was last taken for it. -/
theorem get?_after (calls : List Call) (p : Parameter) :
    (after calls).get? p = some ((calls.filterMap (·.taken? p)).getLast?.getD p.initial) := by
  induction calls using List.reverseRecOn with
  | nil => exact get?_initial p
  | append_singleton calls c ih =>
    rw [after_concat, (valid_after calls).get?_perform, ih, List.filterMap_append]
    cases htaken : c.taken? p with
    | none => simp [htaken]
    | some v => simp [htaken]

/-- The lock level is there, as a whole number. -/
theorem get?_lockLevel (calls : List Call) :
    (after calls).get? .lockLevel = some (.uint8 (after calls).lockLevel) := by
  obtain ⟨v, hv⟩ : ∃ v, (after calls).get? .lockLevel = some v := ⟨_, get?_after calls _⟩
  have hallows : Parameter.lockLevel.kind.Allows v := (valid_after calls).allows_of_get? hv
  unfold lockLevel
  rw [hv]
  cases v with
  | uint8 n => rfl
  | uint32 n => exact hallows.elim
  | float x => exact hallows.elim
  | text s => exact hallows.elim

/-- After any calls a table has an entry for every name, in increasing order, each with a value of
its kind. A call that is refused changes nothing, and one that is taken only the parameter that it
names. The lock level is the one that was last taken, or zero, and its reading never falls back. -/
theorem after_invariant (calls : List Call) :
    ((after calls).entries.map (·.1.name) = Parameter.all.map Parameter.name ∧
      ((after calls).entries.map (·.1.name)).Pairwise (· < ·)) ∧
    (∀ e ∈ (after calls).entries, e.1.kind.Allows e.2) ∧
    (∀ c e, (after calls).set c.name c.value = .error e →
      (after calls).perform c = after calls ∧
        (after calls).setByName c.name c.value = (false, after calls) ∧
        ∀ p, c.taken? p = none) ∧
    (∀ c t, (after calls).set c.name c.value = .ok t →
      (after calls).perform c = t ∧ (after calls).setByName c.name c.value = (true, t) ∧
        ∃ p v, p.name = c.name ∧ c.taken? p = some v ∧ t.get? p = some v ∧
          ∀ q, q ≠ p → c.taken? q = none ∧ t.get? q = (after calls).get? q) ∧
    (after calls).get? .lockLevel = some (.uint8 (after calls).lockLevel) ∧
    .uint8 (after calls).lockLevel =
      (calls.filterMap (·.taken? .lockLevel)).getLast?.getD (.uint8 0) := by
  have hvalid := valid_after calls
  refine ⟨hvalid.names, hvalid.allows, fun c e hset => ?_, fun c t hset => ?_,
    get?_lockLevel calls, ?_⟩
  · exact ⟨perform_of_error hset, by rw [setByName, hset], taken?_of_error hset⟩
  · obtain ⟨p, v, htaken, rfl⟩ := set_eq_ok_iff_taken?.mp hset
    refine ⟨perform_of_ok hset, by rw [setByName, hset], p, v, (taken?_eq_some_iff.mp htaken).1,
      htaken, by rw [hvalid.get?_put, if_pos rfl], fun q hq => ⟨?_, ?_⟩⟩
    · exact taken?_of_ne htaken hq
    · rw [hvalid.get?_put, if_neg hq]
  · exact Option.some.inj ((get?_lockLevel calls).symm.trans (get?_after calls .lockLevel))

end ParameterTable

end SignedControl
