import Mathlib.Logic.Function.Iterate
import SignedControl.Proofs.Parameter.Entries

/-!
# A configuration change that is sent again

A sender repeats a change until it hears of it, so a table may see one change many times. What a
change does to a table is told by its payload alone, and this is why repeating it is harmless.

* `applyConfig_eq`: the result of a change and the values it brings, both without the table.
* `applyConfig_iterate`: a change that has been applied before does what it did the first time.
* `applyConfig_append`: two payloads with a NUL between them are one change after the other.
* `applyConfig_comm`: changes with no name in common may change places.
-/

namespace SignedControl

/-- A payload has an entry for a name. -/
def Mentions (payload : Bytes) (name : String) : Prop :=
  ∃ text entries value, payload = Text.Utf8.encode text ∧ Spells text entries ∧
    (name, value) ∈ entries

namespace ParameterTable

variable {p q : Bytes}

/-! ## The effect of a change -/

/-- The values that a change brings. One that is not UTF-8 brings none. -/
def change (payload : Bytes) : Parameter → Option ParameterValue :=
  lastTaken? ((configEntries? payload).getD [])

theorem applyConfig_snd (t : ParameterTable) (payload : Bytes) :
    (t.applyConfig payload).2 = t.updated (change payload) := by
  unfold change
  cases h : configEntries? payload with
  | none =>
    rw [t.applyConfig_of_none h]
    exact t.updated_none.symm
  | some entries => rw [t.applyConfig_of_entries h, applyEntries_snd, Option.getD_some]

theorem applyConfig_fst_eq (t t' : ParameterTable) (payload : Bytes) :
    (t.applyConfig payload).1 = (t'.applyConfig payload).1 := by
  cases h : configEntries? payload with
  | none => rw [t.applyConfig_of_none h, t'.applyConfig_of_none h]
  | some entries =>
    rw [t.applyConfig_of_entries h, t'.applyConfig_of_entries h]
    refine if_congr ?_ rfl rfl
    simp only [applyEntries_fst_iff_forall, setByName_fst_iff]

/-- The result of a change and the values it brings are the same for every table. -/
theorem applyConfig_eq (t t' : ParameterTable) (payload : Bytes) :
    t.applyConfig payload = ((t'.applyConfig payload).1, t.updated (change payload)) :=
  Prod.ext (t.applyConfig_fst_eq t' payload) (t.applyConfig_snd payload)

/-! ## A change again -/

theorem applyConfig_again (t : ParameterTable) (payload : Bytes) :
    (t.applyConfig payload).2.applyConfig payload = t.applyConfig payload := by
  rw [applyConfig_eq _ t payload, applyConfig_snd, updated_updated]
  simp only [Option.or_self]
  exact (t.applyConfig_eq t payload).symm

theorem applyConfig_iterate (t : ParameterTable) (payload : Bytes) (n : Nat) :
    ((fun t => (t.applyConfig payload).2)^[n] t).applyConfig payload = t.applyConfig payload := by
  induction n generalizing t with
  | zero => rfl
  | succ n ih => rw [Function.iterate_succ_apply, ih, applyConfig_again]

/-! ## Two payloads in one -/

theorem configEntries?_append {s u : List Char} {entries others : List (String × String)}
    (hs : configEntries? (Text.Utf8.encode s) = some entries)
    (hu : configEntries? (Text.Utf8.encode u) = some others) :
    configEntries? (Text.Utf8.encode s ++ 0 :: Text.Utf8.encode u) = some (entries ++ others) := by
  have hjoin : Text.Utf8.encode s ++ 0 :: Text.Utf8.encode u =
      Text.Utf8.encode (s ++ Char.ofNat 0 :: u) := by
    rw [Text.Utf8.encode_append, Text.Utf8.encode_cons]
    rfl
  rw [configEntries?, Text.Utf8.decode_encode, Option.map_some, Option.some.injEq] at hs hu
  rw [hjoin, configEntries?, Text.Utf8.decode_encode, Option.map_some, Text.fields_append_cons,
    List.filterMap_append, hs, hu]

theorem exists_configEntries? (text : List Char) :
    ∃ entries, configEntries? (Text.Utf8.encode text) = some entries := by
  obtain ⟨entries, h, -⟩ := existsUnique_spells text
  exact ⟨entries, spells_iff.mp h⟩

theorem applyConfig_accepted_iff_forall {payload : Bytes} {entries : List (String × String)}
    (t : ParameterTable) (h : configEntries? payload = some entries) :
    (t.applyConfig payload).1 = .accepted ↔ ∀ e ∈ entries, (t.setByName e.1 e.2).1 = true := by
  rw [applyConfig_accepted_iff, ← applyEntries_fst_iff_forall, h]
  simp only [Option.some.injEq, exists_eq_left']

theorem applyConfig_append (t : ParameterTable) (s u : List Char) :
    (t.applyConfig (Text.Utf8.encode s ++ 0 :: Text.Utf8.encode u)).2 =
        ((t.applyConfig (Text.Utf8.encode s)).2.applyConfig (Text.Utf8.encode u)).2 ∧
      ((t.applyConfig (Text.Utf8.encode s ++ 0 :: Text.Utf8.encode u)).1 = .accepted ↔
        (t.applyConfig (Text.Utf8.encode s)).1 = .accepted ∧
          ((t.applyConfig (Text.Utf8.encode s)).2.applyConfig (Text.Utf8.encode u)).1 =
            .accepted) := by
  obtain ⟨entries, hs⟩ := exists_configEntries? s
  obtain ⟨others, hu⟩ := exists_configEntries? u
  have happend := configEntries?_append hs hu
  constructor
  · simp only [applyConfig_snd, change, happend, hs, hu, Option.getD_some, updated_updated]
    congr 1
    funext par
    exact lastTaken?_append entries others par
  · rw [applyConfig_fst_eq _ t (Text.Utf8.encode u), applyConfig_accepted_iff_forall t happend,
      applyConfig_accepted_iff_forall t hs, applyConfig_accepted_iff_forall t hu,
      List.forall_mem_append]

/-! ## Changes with no name in common -/

theorem mentions_iff {payload : Bytes} {name : String} :
    Mentions payload name ↔ ∃ value, (name, value) ∈ (configEntries? payload).getD [] := by
  constructor
  · rintro ⟨text, entries, value, rfl, hspells, hmem⟩
    rw [spells_iff.mp hspells]
    exact ⟨value, hmem⟩
  · rintro ⟨value, hmem⟩
    cases hentries : configEntries? payload with
    | none =>
      rw [hentries] at hmem
      cases hmem
    | some entries =>
      obtain ⟨text, htext, hspells⟩ := configEntries?_eq_some_iff.mp hentries
      rw [hentries] at hmem
      exact ⟨text, entries, value, htext, hspells, hmem⟩

/-- A change brings values for parameters that it mentions only. -/
theorem mentions_of_change {payload : Bytes} {par : Parameter} {v : ParameterValue}
    (h : change payload par = some v) : Mentions payload par.name := by
  obtain ⟨⟨name, value⟩, hmem, htaken⟩ := List.mem_filterMap.mp (List.mem_of_getLast? h)
  obtain ⟨hname, -⟩ := taken?_eq_some_iff.mp htaken
  exact mentions_iff.mpr ⟨value, hname ▸ hmem⟩

theorem applyConfig_comm (h : ∀ name, ¬ (Mentions p name ∧ Mentions q name)) (t : ParameterTable) :
    ((t.applyConfig p).2.applyConfig q).2 = ((t.applyConfig q).2.applyConfig p).2 := by
  simp only [applyConfig_snd, updated_updated]
  congr 1
  funext par
  -- At most one of the two has a value for a parameter, so the order does not tell.
  cases hp : change p par with
  | none => rw [Option.or_none, Option.none_or]
  | some v =>
    cases hq : change q par with
    | none => rw [Option.none_or, Option.or_none]
    | some w => exact absurd ⟨mentions_of_change hp, mentions_of_change hq⟩ (h par.name)

/-- The result of a change is the same for every table. Applied again and again, it does what it did
the first time. Two texts with a NUL between them do what one does and then the other, and are
accepted exactly when both are. Changes with no name in common leave one table and have one result
each, in either order. -/
theorem applyConfig_resend (p q : Bytes) (t : ParameterTable) :
    (∀ t' : ParameterTable, (t.applyConfig p).1 = (t'.applyConfig p).1) ∧
    (∀ n, ((fun t => (t.applyConfig p).2)^[n + 1] t) = (t.applyConfig p).2 ∧
      ((fun t => (t.applyConfig p).2)^[n] t).applyConfig p = t.applyConfig p) ∧
    ((∃ s, p = Text.Utf8.encode s) → (∃ u, q = Text.Utf8.encode u) →
      (t.applyConfig (p ++ 0 :: q)).2 = ((t.applyConfig p).2.applyConfig q).2 ∧
        (t.applyConfig (p ++ 0 :: q)).1 =
          (if (t.applyConfig p).1 = .accepted ∧ ((t.applyConfig p).2.applyConfig q).1 = .accepted
            then .accepted else .failed)) ∧
    ((∀ name, ¬ (Mentions p name ∧ Mentions q name)) →
      ((t.applyConfig p).2.applyConfig q).2 = ((t.applyConfig q).2.applyConfig p).2 ∧
        (t.applyConfig p).1 = ((t.applyConfig q).2.applyConfig p).1 ∧
        ((t.applyConfig p).2.applyConfig q).1 = (t.applyConfig q).1) := by
  refine ⟨fun t' => t.applyConfig_fst_eq t' p, fun n => ⟨?_, t.applyConfig_iterate p n⟩, ?_, ?_⟩
  · rw [Function.iterate_succ_apply', applyConfig_iterate]
  · rintro ⟨s, rfl⟩ ⟨u, rfl⟩
    obtain ⟨htable, hresult⟩ := t.applyConfig_append s u
    refine ⟨htable, ?_⟩
    split
    · next hboth => exact hresult.mpr hboth
    · next hboth => exact (t.applyConfig_fst _).resolve_left fun h => hboth (hresult.mp h)
  · intro h
    exact ⟨applyConfig_comm h t, applyConfig_fst_eq _ _ p, applyConfig_fst_eq _ _ q⟩

/-- A change of which one entry is refused. -/
def partlyRefused : Bytes := Bytes.ofString "LOCK_LEVEL=1\x00CAN_NODE=200"

/-- A change of another parameter. -/
def identifierChange : Bytes := Bytes.ofString "UAS_ID=a=b"

theorem applyConfig_resend_partlyRefused :
    (initial.applyConfig partlyRefused).1 = .failed ∧
    ((fun t => (t.applyConfig partlyRefused).2)^[3] initial) =
      (initial.applyConfig partlyRefused).2 ∧
    (initial.applyConfig (partlyRefused ++ 0 :: identifierChange)).1 = .failed ∧
    ((initial.applyConfig partlyRefused).2.applyConfig identifierChange).2 =
      ((initial.applyConfig identifierChange).2.applyConfig partlyRefused).2 := by
  obtain ⟨-, hagain, hjoined, hplaces⟩ := applyConfig_resend partlyRefused identifierChange initial
  have hfirst : (initial.applyConfig partlyRefused).1 = .failed := by decide +kernel
  refine ⟨hfirst, (hagain 2).1, ?_, (hplaces fun name => ?_).1⟩
  · rw [(hjoined ⟨_, rfl⟩ ⟨_, rfl⟩).2, hfirst]
    rfl
  · have hp : (configEntries? partlyRefused).getD [] =
        [("LOCK_LEVEL", "1"), ("CAN_NODE", "200")] := by decide +kernel
    have hq : (configEntries? identifierChange).getD [] = [("UAS_ID", "a=b")] := by decide +kernel
    simp only [mentions_iff, hp, hq, List.mem_cons, Prod.mk.injEq, List.not_mem_nil, or_false]
    rintro ⟨⟨value, ⟨rfl, -⟩ | ⟨rfl, -⟩⟩, other, h, -⟩
    · exact absurd h (by decide)
    · exact absurd h (by decide)

end ParameterTable

end SignedControl
