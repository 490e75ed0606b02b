/-!
# Cutting text at a separator

* `fields`: the pieces between the separators. `intercalate_fields`: putting the separators back
  gives the text, and `not_mem_fields`: no piece holds one, so nothing else is lost or kept.
  `fields_intercalate`: pieces without a separator are found again.
* `cut?`: the two sides of the first separator. `cut?_eq_some_iff`: the left side holds none.
-/

namespace SignedControl.Text

/-- The pieces of a text between the separators, at least one. -/
def fields (sep : Char) : List Char → List (List Char)
  | [] => [[]]
  | c :: rest =>
    if c = sep then [] :: fields sep rest
    else
      match fields sep rest with
      | [] => [[c]]
      | piece :: pieces => (c :: piece) :: pieces

theorem fields_ne_nil (sep : Char) (s : List Char) : fields sep s ≠ [] := by
  fun_cases fields sep s <;> simp [*]

theorem intercalate_fields (sep : Char) (s : List Char) :
    List.intercalate [sep] (fields sep s) = s := by
  induction s with
  | nil => rfl
  | cons c rest ih =>
    have hne := fields_ne_nil sep rest
    unfold fields
    split
    · next h =>
      subst h
      cases hf : fields c rest with
      | nil => exact absurd hf hne
      | cons piece pieces => rw [hf] at ih; simpa [List.intercalate, List.intersperse] using ih
    · cases hf : fields sep rest with
      | nil => exact absurd hf hne
      | cons piece pieces =>
        rw [hf] at ih
        cases pieces with
        | nil => simpa [List.intercalate, List.intersperse] using ih
        | cons q qs => simpa [List.intercalate, List.intersperse] using ih

theorem not_mem_fields {sep : Char} {s piece : List Char} (h : piece ∈ fields sep s) :
    sep ∉ piece := by
  induction s generalizing piece with
  | nil => simp only [fields, List.mem_singleton] at h; simp [h]
  | cons c rest ih =>
    unfold fields at h
    split at h
    · rcases List.mem_cons.mp h with rfl | h
      · simp
      · exact ih h
    · next hc =>
      split at h
      · next hf => exact absurd hf (fields_ne_nil sep rest)
      · next p ps hf =>
        rcases List.mem_cons.mp h with rfl | h
        · have hp : sep ∉ p := ih (by simp [hf])
          simp only [List.mem_cons, not_or]
          exact ⟨fun e => hc e.symm, hp⟩
        · exact ih (by simp [hf, h])

theorem fields_of_not_mem {sep : Char} {s : List Char} (h : sep ∉ s) : fields sep s = [s] := by
  induction s with
  | nil => rfl
  | cons c rest ih =>
    rw [List.mem_cons, not_or] at h
    rw [fields, if_neg fun hc => h.1 hc.symm, ih h.2]

theorem fields_append_cons (sep : Char) (s u : List Char) :
    fields sep (s ++ sep :: u) = fields sep s ++ fields sep u := by
  induction s with
  | nil => simp [fields]
  | cons c rest ih =>
    rw [List.cons_append, fields, fields, ih]
    split
    · rfl
    · cases h : fields sep rest with
      | nil => exact absurd h (fields_ne_nil sep rest)
      | cons piece pieces => rfl

/-- Pieces that hold no separator are found again between the separators. -/
theorem fields_intercalate {sep : Char} {pieces : List (List Char)} (hne : pieces ≠ [])
    (h : ∀ piece ∈ pieces, sep ∉ piece) : fields sep (List.intercalate [sep] pieces) = pieces := by
  induction pieces with
  | nil => exact absurd rfl hne
  | cons piece pieces ih =>
    have hpiece := fields_of_not_mem (h piece List.mem_cons_self)
    cases pieces with
    | nil => rw [List.intercalate_singleton, hpiece]
    | cons next pieces =>
      have hrest := ih (List.cons_ne_nil _ _) fun q hq => h q (List.mem_cons_of_mem _ hq)
      rw [List.intercalate_cons_cons, List.append_assoc, List.singleton_append, fields_append_cons,
        hpiece, hrest, List.singleton_append]

/-- The text before and after the first separator, if there is one. -/
def cut? (sep : Char) : List Char → Option (List Char × List Char)
  | [] => none
  | c :: rest =>
    if c = sep then some ([], rest) else (cut? sep rest).map fun (left, right) => (c :: left, right)

theorem cut?_eq_none_iff {sep : Char} {s : List Char} : cut? sep s = none ↔ sep ∉ s := by
  induction s with
  | nil => simp [cut?]
  | cons c rest ih =>
    unfold cut?
    split
    · next h => simp [h]
    · next h =>
      rw [Option.map_eq_none_iff, ih, List.mem_cons, not_or]
      exact ⟨fun hrest => ⟨fun heq => h heq.symm, hrest⟩, fun h => h.2⟩

theorem cut?_eq_some_iff {sep : Char} {s left right : List Char} :
    cut? sep s = some (left, right) ↔ s = left ++ sep :: right ∧ sep ∉ left := by
  induction s generalizing left right with
  | nil => simp [cut?]
  | cons c rest ih =>
    unfold cut?
    split
    · next h =>
      subst h
      cases left with
      | nil => simp
      | cons a left =>
        simp only [Option.some.injEq, Prod.mk.injEq, List.cons_append, List.cons.injEq,
          List.mem_cons, not_or]
        constructor
        · rintro ⟨h, _⟩; cases h
        · rintro ⟨⟨h, _⟩, h', _⟩; exact absurd h h'
    · next h =>
      cases left with
      | nil => simp [h]
      | cons a left =>
        simp only [Option.map_eq_some_iff, Prod.exists, Prod.mk.injEq, List.cons.injEq,
          List.cons_append, List.mem_cons, not_or]
        constructor
        · rintro ⟨l, r, hlr, ⟨rfl, rfl⟩, rfl⟩
          obtain ⟨rfl, hl⟩ := ih.mp hlr
          exact ⟨⟨rfl, rfl⟩, fun e => h e.symm, hl⟩
        · rintro ⟨⟨rfl, hs⟩, _, hl⟩
          exact ⟨left, right, ih.mpr ⟨hs, hl⟩, ⟨rfl, rfl⟩, rfl⟩

end SignedControl.Text
