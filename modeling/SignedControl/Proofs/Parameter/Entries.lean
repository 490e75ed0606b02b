import SignedControl.Proofs.Parameter.Change
import SignedControl.Proofs.Parameter.Invariant
import SignedControl.Proofs.Text.Utf8

/-!
# What a configuration change means

A change is read as the entries that its text spells, and does to a table what the last entry that
is taken for each parameter says. The entries are applied one after another; what they do together
is told by parameter, without an order.

* `Spells`: the entries of a text, by its pieces and not by how they are found.
  `configEntries?_eq_some_iff` is the agreement with the reading.
* `updated`: a table with new values for some parameters. `setByName_snd` is one entry,
  `applyEntries_snd` a list of them.
* `applyEntries_fst_iff_forall`: all entries are taken if each is, at whatever table.
* `applyConfig_meaning`: what a change leaves of a table, and its result.
-/

namespace SignedControl

/-! ## The entries of a text -/

/-- What pieces of text list: one with an equals sign a name and a value, the others nothing. -/
inductive Lists : List (List Char) → List (String × String) → Prop where
  /-- No pieces list nothing. -/
  | nil : Lists [] []
  /-- A piece without an equals sign is passed over. -/
  | passed {piece : List Char} {pieces : List (List Char)} {entries : List (String × String)}
      (h : '=' ∉ piece) (rest : Lists pieces entries) : Lists (piece :: pieces) entries
  /-- The first equals sign stands between the name and the value. -/
  | entry {name : List Char} {pieces : List (List Char)} {entries : List (String × String)}
      (h : '=' ∉ name) (value : List Char) (rest : Lists pieces entries) :
      Lists ((name ++ '=' :: value) :: pieces)
        ((String.ofList name, String.ofList value) :: entries)

/-- The entries that a text spells: those that the pieces between its NUL characters list. -/
def Spells (text : List Char) (entries : List (String × String)) : Prop :=
  ∃ pieces, pieces ≠ [] ∧ (∀ piece ∈ pieces, Char.ofNat 0 ∉ piece) ∧
    text = List.intercalate [Char.ofNat 0] pieces ∧ Lists pieces entries

variable {payload : Bytes} {text : List Char} {entries : List (String × String)}

theorem lists_iff {pieces : List (List Char)} :
    Lists pieces entries ↔ (pieces.filterMap fun piece =>
      (Text.cut? '=' piece).map fun (name, value) => (String.ofList name, String.ofList value)) =
        entries := by
  constructor
  · intro h
    induction h with
    | nil => rfl
    | passed h rest ih => rw [List.filterMap_cons, Text.cut?_eq_none_iff.mpr h, Option.map_none, ih]
    | entry h value rest ih =>
      rw [List.filterMap_cons, Text.cut?_eq_some_iff.mpr ⟨rfl, h⟩, Option.map_some, ih]
  · rintro rfl
    induction pieces with
    | nil => exact .nil
    | cons piece pieces ih =>
      rw [List.filterMap_cons]
      cases hcut : Text.cut? '=' piece with
      | none => exact .passed (Text.cut?_eq_none_iff.mp hcut) ih
      | some sides =>
        obtain ⟨name, value⟩ := sides
        obtain ⟨rfl, hname⟩ := Text.cut?_eq_some_iff.mp hcut
        exact .entry hname value ih

theorem spells_iff :
    Spells text entries ↔ configEntries? (Text.Utf8.encode text) = some entries := by
  rw [configEntries?, Text.Utf8.decode_encode, Option.map_some, Option.some.injEq, ← lists_iff]
  constructor
  · rintro ⟨pieces, hne, hnul, rfl, hlists⟩
    rwa [Text.fields_intercalate hne hnul]
  · intro h
    exact ⟨_, Text.fields_ne_nil _ text, fun _ => Text.not_mem_fields,
      (Text.intercalate_fields _ text).symm, h⟩

/-- The entries of a payload are those that its text spells. -/
theorem configEntries?_eq_some_iff :
    configEntries? payload = some entries ↔
      ∃ text, payload = Text.Utf8.encode text ∧ Spells text entries := by
  constructor
  · intro h
    obtain ⟨text, htext, -⟩ := Option.map_eq_some_iff.mp h
    obtain rfl := Text.Utf8.eq_encode_of_decode htext
    exact ⟨text, rfl, spells_iff.mpr h⟩
  · rintro ⟨text, rfl, h⟩
    exact spells_iff.mp h

theorem configEntries?_of_forall_ne (h : ∀ text, payload ≠ Text.Utf8.encode text) :
    configEntries? payload = none := by
  rw [Option.eq_none_iff_forall_ne_some]
  intro entries hentries
  obtain ⟨text, htext, -⟩ := configEntries?_eq_some_iff.mp hentries
  exact h text htext

theorem existsUnique_spells (text : List Char) : ∃! entries, Spells text entries := by
  simp only [spells_iff]
  rw [configEntries?, Text.Utf8.decode_encode, Option.map_some]
  exact ⟨_, rfl, fun entries h => (Option.some.inj h).symm⟩

namespace ParameterTable

variable {t : ParameterTable} {name value : String}

/-! ## New values for some parameters -/

/-- The table with new values for some parameters. -/
def updated (t : ParameterTable) (new : Parameter → Option ParameterValue) : ParameterTable :=
  ⟨t.entries.map fun e => (e.1, (new e.1).getD e.2)⟩

theorem updated_none (t : ParameterTable) : t.updated (fun _ => none) = t := by
  simp [updated]

/-- Of two new values the later counts. -/
theorem updated_updated (t : ParameterTable) (f g : Parameter → Option ParameterValue) :
    (t.updated f).updated g = t.updated fun p => (g p).or (f p) := by
  simp only [updated, List.map_map]
  congr 2
  funext e
  simp only [Function.comp_apply]
  cases g e.1 <;> rfl

theorem put_eq_updated (t : ParameterTable) (p : Parameter) (v : ParameterValue) :
    t.put p v = t.updated fun q => if q = p then some v else none := by
  unfold put updated
  congr 2
  funext e
  split
  · next h => simp [h]
  · next h => simp [h]

theorem get?_updated (t : ParameterTable) (new : Parameter → Option ParameterValue)
    (p : Parameter) : (t.updated new).get? p = (t.get? p).map fun old => (new p).getD old := by
  obtain ⟨entries⟩ := t
  simp only [get?, updated]
  induction entries with
  | nil => rfl
  | cons e entries ih =>
    by_cases hp : e.1 = p
    · simp [hp]
    · simp only [List.map_cons, List.find?_cons, hp, decide_false]
      exact ih

/-! ## One entry -/

/-- Whether an entry is taken does not depend on the table. -/
theorem setByName_fst_iff :
    (t.setByName name value).1 = true ↔ ∃ p v, (Call.setByName name value).taken? p = some v := by
  unfold setByName
  cases h : t.set name value with
  | ok t' =>
    obtain ⟨p, v, htaken, -⟩ := (set_eq_ok_iff_taken? (c := .setByName name value)).mp h
    exact iff_of_true rfl ⟨p, v, htaken⟩
  | error e =>
    refine iff_of_false Bool.false_ne_true ?_
    rintro ⟨p, v, htaken⟩
    rw [taken?_of_error (c := .setByName name value) h p] at htaken
    cases htaken

theorem setByName_snd (t : ParameterTable) (name value : String) :
    (t.setByName name value).2 = t.updated (Call.setByName name value).taken? := by
  change t.perform (.setByName name value) = _
  cases h : t.set name value with
  | ok t' =>
    rw [perform_of_ok h]
    obtain ⟨p, v, htaken, rfl⟩ := (set_eq_ok_iff_taken? (c := .setByName name value)).mp h
    rw [put_eq_updated]
    congr 1
    funext q
    split
    · next hq => rw [hq, htaken]
    · next hq => rw [taken?_of_ne htaken hq]
  | error e =>
    rw [perform_of_error h, show (Call.setByName name value).taken? = fun _ => none from
      funext (taken?_of_error (c := .setByName name value) h), updated_none]

/-! ## A list of entries -/

/-- The value that entries last have a table take for a parameter. -/
def lastTaken? (entries : List (String × String)) (p : Parameter) : Option ParameterValue :=
  (entries.filterMap fun e => (Call.setByName e.1 e.2).taken? p).getLast?

theorem lastTaken?_cons (e : String × String) (entries : List (String × String)) (p : Parameter) :
    lastTaken? (e :: entries) p =
      (lastTaken? entries p).or ((Call.setByName e.1 e.2).taken? p) := by
  unfold lastTaken?
  rw [List.filterMap_cons]
  cases (Call.setByName e.1 e.2).taken? p with
  | none => rw [Option.or_none]
  | some v => rw [List.getLast?_cons, Option.or_some]

theorem lastTaken?_append (entries others : List (String × String)) (p : Parameter) :
    lastTaken? (entries ++ others) p = (lastTaken? others p).or (lastTaken? entries p) := by
  unfold lastTaken?
  rw [List.filterMap_append, List.getLast?_append]

/-- Entries leave each parameter with the value that is last taken for it. -/
theorem applyEntries_snd (t : ParameterTable) (entries : List (String × String)) :
    (t.applyEntries entries).2 = t.updated (lastTaken? entries) := by
  induction entries generalizing t with
  | nil => exact t.updated_none.symm
  | cons e entries ih =>
    rw [applyEntries_cons, ih, setByName_snd, updated_updated]
    congr 1
    funext p
    rw [lastTaken?_cons]

/-- Entries are taken if each of them is, whichever table it finds. -/
theorem applyEntries_fst_iff_forall (t : ParameterTable) (entries : List (String × String)) :
    (t.applyEntries entries).1 = true ↔ ∀ e ∈ entries, (t.setByName e.1 e.2).1 = true := by
  induction entries generalizing t with
  | nil => simp [applyEntries]
  | cons e entries ih =>
    rw [applyEntries_cons, Bool.and_eq_true, ih, List.forall_mem_cons]
    simp only [setByName_fst_iff]

/-- An entry that is not taken might as well not be there. -/
theorem lastTaken?_of_refused {before after : List (String × String)}
    (h : (t.setByName name value).1 = false) :
    lastTaken? (before ++ (name, value) :: after) = lastTaken? (before ++ after) := by
  funext p
  have hnone : (Call.setByName name value).taken? p = none := by
    rw [Option.eq_none_iff_forall_ne_some]
    intro v hv
    rw [setByName_fst_iff.mpr ⟨p, v, hv⟩] at h
    cases h
  rw [lastTaken?_append, lastTaken?_append, lastTaken?_cons, hnone, Option.or_none]

/-! ## A payload -/

theorem applyConfig_of_none (t : ParameterTable) (h : configEntries? payload = none) :
    t.applyConfig payload = (.failed, t) := by
  rw [applyConfig, h]

theorem applyConfig_of_entries (t : ParameterTable) (h : configEntries? payload = some entries) :
    t.applyConfig payload =
      (if (t.applyEntries entries).1 then .accepted else .failed, (t.applyEntries entries).2) := by
  rw [applyConfig, h]

/-- A payload that is not UTF-8 fails and changes nothing. The text of any other spells entries, and
in one way. Each parameter gets the value that is parsed from the last entry for its name that is
taken, and keeps its own without one; the change is accepted if every entry is taken, and fails
otherwise. An entry that is refused might as well not be there, for what becomes of the table. -/
theorem applyConfig_meaning (t : ParameterTable) (payload : Bytes) :
    ((∀ text, payload ≠ Text.Utf8.encode text) → t.applyConfig payload = (.failed, t)) ∧
    ∀ text, payload = Text.Utf8.encode text →
      (∃! entries, Spells text entries) ∧
      ∀ entries, Spells text entries →
        (t.applyConfig payload).2 = t.updated (lastTaken? entries) ∧
        (∀ p, (t.applyConfig payload).2.get? p =
          (t.get? p).map fun old => (lastTaken? entries p).getD old) ∧
        (t.applyConfig payload).1 =
          (if ∀ e ∈ entries, (t.setByName e.1 e.2).1 = true then .accepted else .failed) ∧
        ∀ before name value after, entries = before ++ (name, value) :: after →
          (t.setByName name value).1 = false →
            (t.applyConfig payload).2 = (t.applyEntries (before ++ after)).2 := by
  refine ⟨fun h => t.applyConfig_of_none (configEntries?_of_forall_ne h), ?_⟩
  rintro text rfl
  refine ⟨existsUnique_spells text, fun entries h => ?_⟩
  have happly := t.applyConfig_of_entries (spells_iff.mp h)
  have htable : (t.applyConfig (Text.Utf8.encode text)).2 = t.updated (lastTaken? entries) := by
    rw [happly, applyEntries_snd]
  refine ⟨htable, fun p => by rw [htable, get?_updated], ?_, ?_⟩
  · rw [happly]
    exact if_congr (t.applyEntries_fst_iff_forall entries) rfl rfl
  · rintro before name value after rfl hrefused
    rw [htable, lastTaken?_of_refused hrefused, applyEntries_snd]

/-- Seven pieces: two of them are passed over, two entries are refused, and the first entry is
overtaken by a later one for the same name. -/
def mixedText : List Char :=
  "LOCK_LEVEL=2\x00LOCK_LEVEL\x00\x00NO_SUCH=1\x00UAS_ID=a=b\x00LOCK_LEVEL=1\x00LOCK_LEVEL=9".toList

theorem applyConfig_meaning_mixed :
    initial.applyConfig [0xFF] = (.failed, initial) ∧
    Spells mixedText [("LOCK_LEVEL", "2"), ("NO_SUCH", "1"), ("UAS_ID", "a=b"),
      ("LOCK_LEVEL", "1"), ("LOCK_LEVEL", "9")] ∧
    (initial.applyConfig (Text.Utf8.encode mixedText)).1 = .failed ∧
    (initial.applyConfig (Text.Utf8.encode mixedText)).2.get? .lockLevel = some (.uint8 1) ∧
    (initial.applyConfig (Text.Utf8.encode mixedText)).2.get? .uasId = some (.text "a=b") ∧
    (initial.applyConfig (Text.Utf8.encode mixedText)).2.get? .canNode = some (.uint8 0) := by
  have hspells : Spells mixedText [("LOCK_LEVEL", "2"), ("NO_SUCH", "1"), ("UAS_ID", "a=b"),
      ("LOCK_LEVEL", "1"), ("LOCK_LEVEL", "9")] := spells_iff.mpr (by decide +kernel)
  obtain ⟨-, hget, hresult, -⟩ :=
    ((applyConfig_meaning initial (Text.Utf8.encode mixedText)).2 mixedText rfl).2 _ hspells
  refine ⟨(applyConfig_meaning initial [0xFF]).1 fun text h => ?_, hspells, ?_, ?_, ?_, ?_⟩
  · have hdecode := Text.Utf8.decode_eq_some_iff.mpr h
    cases hdecode
  · rw [hresult]
    decide +kernel
  · rw [hget]
    decide +kernel
  · rw [hget]
    decide +kernel
  · rw [hget]
    decide +kernel

end ParameterTable

end SignedControl
