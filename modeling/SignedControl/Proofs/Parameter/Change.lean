import SignedControl.Parameter.Config

/-!
# What it takes for a configuration change to be accepted

* `applyEntries_fst_iff`: a list of entries counts as taken if the table takes every one of them at
  its turn, that is, after the entries before it.
* `applyConfig_accepted_iff`: a change is accepted if its payload has entries and all are taken.
-/

namespace SignedControl

namespace ParameterTable

theorem applyEntries_cons (t : ParameterTable) (name value : String)
    (entries : List (String × String)) :
    t.applyEntries ((name, value) :: entries) =
      ((t.setByName name value).1 && ((t.setByName name value).2.applyEntries entries).1,
        ((t.setByName name value).2.applyEntries entries).2) := rfl

theorem applyEntries_fst_iff (t : ParameterTable) (entries : List (String × String)) :
    (t.applyEntries entries).1 = true ↔ ∀ before name value after,
      entries = before ++ (name, value) :: after →
        ((t.applyEntries before).2.setByName name value).1 = true := by
  induction entries generalizing t with
  | nil =>
    refine iff_of_true rfl fun before name value after h => ?_
    exact absurd h.symm (List.append_ne_nil_of_right_ne_nil _ (List.cons_ne_nil _ _))
  | cons entry entries ih =>
    obtain ⟨name, value⟩ := entry
    rw [applyEntries_cons, Bool.and_eq_true, ih]
    constructor
    · rintro ⟨hfirst, hrest⟩ before name' value' after h
      cases before with
      | nil =>
        obtain ⟨hhead, -⟩ := List.cons.inj h
        cases hhead
        exact hfirst
      | cons e before =>
        rw [List.cons_append] at h
        obtain ⟨rfl, htail⟩ := List.cons.inj h
        exact hrest before name' value' after htail
    · intro h
      refine ⟨h [] name value entries rfl, fun before name' value' after he => ?_⟩
      exact h ((name, value) :: before) name' value' after (by rw [he]; rfl)

theorem applyConfig_accepted_iff (t : ParameterTable) (payload : Bytes) :
    (t.applyConfig payload).1 = .accepted ↔
      ∃ entries, configEntries? payload = some entries ∧ (t.applyEntries entries).1 = true := by
  unfold applyConfig
  cases configEntries? payload with
  | none => simp
  | some entries =>
    simp only [Option.some.injEq, exists_eq_left']
    cases (t.applyEntries entries).1 <;> simp

theorem applyConfig_fst (t : ParameterTable) (payload : Bytes) :
    (t.applyConfig payload).1 = .accepted ∨ (t.applyConfig payload).1 = .failed := by
  unfold applyConfig
  cases configEntries? payload with
  | none => exact .inr rfl
  | some entries =>
    dsimp only
    cases (t.applyEntries entries).1
    · exact .inr rfl
    · exact .inl rfl

end ParameterTable

end SignedControl
