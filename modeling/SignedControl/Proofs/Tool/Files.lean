import Mathlib.Logic.Function.Basic
import SignedControl.Proofs.Tool.Agreement

/-!
# Replacing a file, all or nothing

A tool replaces a file by way of a temporary one. This works on any machine on which the steps that
it takes do what they say if they do anything: a step may fail in any state, and a write that fails
may have written a part.

* `FileView`: the files of a machine, by name. `FileSystem.Lawful`: what the steps do to them.
* `FileSystem.Replaced`, `FileSystem.Lawful.replaced`: all that replacing a file can come out as.
* `Directory.lawful_fileSystem`: a directory is such a machine, whatever its faults are.
-/

namespace SignedControl.Tool

/-- The files of a machine with states `σ`. Where a path leads is the same in all of them. -/
structure FileView (σ : Type) where
  /-- The name of the file that a path leads to. -/
  locate : String → Option String
  /-- The content of the file of a name, if there is one. -/
  content? : σ → String → Option Bytes

namespace FileView

variable {σ : Type} {view : FileView σ} {s s' : σ} {path : String} {content content' : Bytes}

/-- The file at a path is there, with a content. -/
def Holds (view : FileView σ) (s : σ) (path : String) (content : Bytes) : Prop :=
  ∃ name, view.locate path = some name ∧ view.content? s name = some content

namespace Holds

/-- A file has one content. -/
theorem unique (h : view.Holds s path content) (h' : view.Holds s path content') :
    content = content' := by
  obtain ⟨name, hname, hcontent⟩ := h
  obtain ⟨name', hname', hcontent'⟩ := h'
  cases hname.symm.trans hname'
  exact Option.some.inj (hcontent.symm.trans hcontent')

theorem congr (h : view.Holds s path content) (hs : view.content? s' = view.content? s) :
    view.Holds s' path content := by
  obtain ⟨name, hname, hcontent⟩ := h
  exact ⟨name, hname, hs ▸ hcontent⟩

end Holds

/-- Without a temporary file the files are what they were before it, whatever it holds. -/
theorem update_temporary_none (view : FileView σ) {temporary : String} {s0 : σ}
    (hfree : view.content? s0 temporary = none)
    (hothers : ∀ name, name ≠ temporary → view.content? s name = view.content? s0 name) :
    Function.update (view.content? s) temporary none = view.content? s0 := by
  funext name
  rcases eq_or_ne name temporary with rfl | hne
  · rw [Function.update_self, hfree]
  · rw [Function.update_of_ne hne, hothers name hne]

end FileView

theorem toOption_eq_some_iff {ε α : Type} {r : Except ε α} {a : α} :
    r.toOption = some a ↔ r = .ok a := by
  cases r <;> simp [Except.toOption]

/-- A step, and then what comes after its answer. -/
theorem run_bind_of_run {σ α β : Type} {x : StateM σ α} {s s' : σ} {a : α} (h : x.run s = (a, s'))
    (next : α → StateM σ β) : (x >>= next).run s = (next a).run s' := by
  rw [StateT.run_bind, h]
  rfl

namespace FileSystem

variable {σ : Type} {fs : FileSystem (StateM σ)} {view : FileView σ} {s s' : σ}
  {path : String} {content : Bytes}

/-- The steps of a file system, as far as they succeed, do to the files what they say. One that
fails does nothing, only that a temporary file may have been written in part. -/
structure Lawful (fs : FileSystem (StateM σ)) (view : FileView σ) : Prop where
  /-- Reading changes no file. -/
  read : ∀ {path r s s'}, (fs.read path).run s = (r, s') → view.content? s' = view.content? s
  /-- What is read is what the file holds. -/
  read_ok : ∀ {path content s s'}, (fs.read path).run s = (.ok content, s') →
    view.Holds s path content
  /-- Where there can be no temporary file, there is none. -/
  create_error : ∀ {path e s s'}, (fs.create path).run s = (.error e, s') →
    view.content? s' = view.content? s
  /-- A temporary file has a name that was free, and nothing in it. -/
  create_ok : ∀ {path temporary s s'}, (fs.create path).run s = (.ok temporary, s') →
    view.content? s temporary = none ∧
      view.content? s' = Function.update (view.content? s) temporary (some [])
  /-- Writing changes the temporary file only. -/
  write : ∀ {temporary content r s s'}, (fs.write temporary content).run s = (r, s') →
    ∀ name, name ≠ temporary → view.content? s' name = view.content? s name
  /-- What has been written is what it then holds. -/
  write_ok : ∀ {temporary content s s'}, (fs.write temporary content).run s = (.ok (), s') →
    view.content? s' temporary = some content
  /-- A file whose name cannot be changed stays where it is. -/
  rename_error : ∀ {temporary path e s s'}, (fs.rename temporary path).run s = (.error e, s') →
    view.content? s' = view.content? s
  /-- A file whose name is changed is at its new place in one step. -/
  rename_ok : ∀ {temporary path s s'}, (fs.rename temporary path).run s = (.ok (), s') →
    ∃ name content, view.locate path = some name ∧ view.content? s temporary = some content ∧
      view.content? s' =
        Function.update (Function.update (view.content? s) temporary none) name (some content)
  /-- A file that is removed is gone. -/
  remove : ∀ {temporary s s'}, (fs.remove temporary).run s = ((), s') →
    view.content? s' = Function.update (view.content? s) temporary none

/-- What is there can be read. -/
def ReadsAll (fs : FileSystem (StateM σ)) (view : FileView σ) : Prop :=
  ∀ {s path content}, view.Holds s path content → ((fs.read path).run s).1 = .ok content

/-- Where a file is there and can be read, its content is what reading gives. -/
theorem ReadsAll.run_read (hread : fs.ReadsAll view) (hfs : fs.Lawful view)
    (h : view.Holds s path content) : ∃ s', (fs.read path).run s = (.ok content, s') ∧
      view.content? s' = view.content? s :=
  ⟨((fs.read path).run s).2, Prod.ext (hread h) rfl, hfs.read rfl⟩

/-! ## Replacing -/

/-- How replacing a file comes out. -/
inductive Replaced (view : FileView σ) (s s' : σ) (path : String) (content : Bytes) :
    Except ReplaceError Unit → Prop where
  /-- It has failed, and no file has changed. -/
  | failed {e : ReplaceError} (h : view.content? s' = view.content? s) :
    Replaced view s s' path content (.error e)
  /-- The file has the content, and no other has changed. -/
  | done {name : String} (hname : view.locate path = some name)
      (h : view.content? s' = Function.update (view.content? s) name (some content)) :
    Replaced view s s' path content (.ok ())

theorem Lawful.replaced (hfs : fs.Lawful view) {r : Except ReplaceError Unit}
    (h : (fs.replace path content).run s = (r, s')) : Replaced view s s' path content r := by
  unfold replace at h
  rcases hcreate : (fs.create path).run s with ⟨_ | temporary, s1⟩
  · rw [run_bind_of_run hcreate] at h
    cases h
    exact .failed (hfs.create_error hcreate)
  rw [run_bind_of_run hcreate] at h
  dsimp only at h
  obtain ⟨hfree, hcreated⟩ := hfs.create_ok hcreate
  rcases hwrite : (fs.write temporary content).run s1 with ⟨written, s2⟩
  -- The temporary file was not there before, so what is written to it, or a part of it, can be
  -- undone by removing it: nothing else differs.
  have hothers : ∀ name, name ≠ temporary → view.content? s2 name = view.content? s name := by
    intro name hne
    rw [hfs.write hwrite name hne, hcreated, Function.update_of_ne hne]
  rw [run_bind_of_run hwrite] at h
  cases written with
  | error e =>
    dsimp only at h
    rcases hremove : (fs.remove temporary).run s2 with ⟨⟨⟩, s3⟩
    rw [run_bind_of_run hremove] at h
    cases h
    exact .failed ((hfs.remove hremove).trans (view.update_temporary_none hfree hothers))
  | ok =>
    dsimp only at h
    rcases hrename : (fs.rename temporary path).run s2 with ⟨renamed, s3⟩
    rw [run_bind_of_run hrename] at h
    cases renamed with
    | error e =>
      dsimp only at h
      rcases hremove : (fs.remove temporary).run s3 with ⟨⟨⟩, s4⟩
      rw [run_bind_of_run hremove] at h
      cases h
      rw [← hfs.rename_error hrename] at hothers
      exact .failed ((hfs.remove hremove).trans (view.update_temporary_none hfree hothers))
    | ok =>
      cases h
      obtain ⟨name, content', hname, hcontent, hmoved⟩ := hfs.rename_ok hrename
      cases (hfs.write_ok hwrite).symm.trans hcontent
      rw [view.update_temporary_none hfree hothers] at hmoved
      exact .done hname hmoved

end FileSystem

/-! ## A directory -/

namespace Directory

variable {d : Directory} {name : String}

/-! ### Where a path leads -/

theorem follow_ok (d' : Directory) {place place' : Place} {part : List Char}
    (h : d.follow place part = .ok place') : d'.follow place part = .ok place' := by
  cases place with
  | here | above => exact h
  | entry name => cases h

theorem foldlM_follow_ok (d' : Directory) {parts : List (List Char)} {place place' : Place}
    (h : parts.foldlM d.follow place = .ok place') : parts.foldlM d'.follow place = .ok place' := by
  induction parts generalizing place with
  | nil => exact h
  | cons part parts ih =>
    rw [List.foldlM_cons] at h ⊢
    cases hfirst : d.follow place part with
    | error e =>
      rw [hfirst] at h
      cases h
    | ok next =>
      rw [hfirst] at h
      rw [follow_ok d' hfirst]
      exact ih h

/-- What a directory holds does not matter for where a path leads, only for what is wrong with one
that leads nowhere. -/
theorem locate_ok (d' : Directory) {path : String} (h : d.locate path = .ok name) :
    d'.locate path = .ok name := by
  unfold locate at h ⊢
  split at h
  · cases h
  rw [if_neg ‹_›]
  split at h
  · cases h
  rw [if_neg ‹_›]
  dsimp only at h ⊢
  split at h
  · cases h
  · next hfound =>
    rw [foldlM_follow_ok d' hfound]
    exact h
  · cases h

/-- The files of a directory. -/
def view : FileView Directory where
  locate path := (locate ⟨[]⟩ path).toOption
  content? := get?

theorem view_locate_iff {path : String} :
    view.locate path = some name ↔ d.locate path = .ok name := by
  have hempty : d.locate path = .ok name ↔ locate ⟨[]⟩ path = .ok name :=
    ⟨locate_ok ⟨[]⟩, locate_ok d⟩
  rw [hempty]
  exact toOption_eq_some_iff

/-! ### What a directory holds -/

theorem get?_put (d : Directory) (name : String) (content : Bytes) :
    (d.put name content).get? = Function.update d.get? name (some content) := by
  funext other
  unfold put
  split
  · next h =>
    -- Names stay in their places, so the same file is found as before.
    have hname : ∀ f : String × Bytes, (if f.1 = name then (name, content) else f).1 = f.1 := by
      intro f
      split
      · next hf => exact hf.symm
      · rfl
    simp only [get?, List.find?_map, Function.comp_def, hname, Option.map_map]
    rcases eq_or_ne other name with rfl | hne
    · rw [Function.update_self]
      obtain ⟨content', hcontent⟩ := Option.isSome_iff_exists.mp h
      obtain ⟨f, hf, -⟩ := Option.map_eq_some_iff.mp hcontent
      have hfound : f.1 = other := by simpa using List.find?_some hf
      rw [hf, Option.map_some, if_pos hfound]
    · rw [Function.update_of_ne hne, get?]
      refine Option.map_congr fun f hf => ?_
      have hfound : f.1 = other := by simpa using List.find?_some hf
      rw [if_neg (hfound ▸ hne)]
  · next h =>
    have hnone : d.get? name = none := by simpa using h
    have happend : (Directory.mk (d.files ++ [(name, content)])).get? other =
        (d.get? other).or (if name = other then some content else none) := by
      rw [get?, List.find?_append, Option.map_or, get?]
      congr 1
      by_cases hne : name = other <;> simp [hne]
    rw [happend]
    rcases eq_or_ne other name with rfl | hne
    · rw [Function.update_self, hnone, Option.none_or, if_pos rfl]
    · rw [Function.update_of_ne hne, if_neg hne.symm, Option.or_none]

theorem get?_erase (d : Directory) (name : String) :
    (d.erase name).get? = Function.update d.get? name none := by
  funext other
  simp only [get?, erase, List.find?_filter]
  rcases eq_or_ne other name with rfl | hne
  · rw [Function.update_self]
    simp
  · rw [Function.update_of_ne hne, get?]
    congr 2
    funext f
    by_cases hf : f.1 = other
    · simp [hf, hne]
    · simp [hf]

theorem foldr_length_pos (files : List (String × Bytes)) :
    0 < files.foldr (fun f n => f.1.length + n) 1 := by
  induction files with
  | nil => exact Nat.one_pos
  | cons f files ih => exact Nat.add_pos_right _ ih

theorem length_lt_freshName {f : String × Bytes} (h : f ∈ d.files) :
    f.1.length < d.freshName.length := by
  obtain ⟨files⟩ := d
  dsimp only at h
  rw [freshName, String.length_ofList, List.length_replicate]
  induction files with
  | nil => cases h
  | cons g files ih =>
    have htail := foldr_length_pos files
    dsimp only [List.foldr_cons] at ih ⊢
    rcases List.mem_cons.mp h with rfl | h
    · omega
    · have hlt := ih h
      omega

theorem get?_freshName (d : Directory) : d.get? d.freshName = none := by
  rw [get?, Option.map_eq_none_iff, List.find?_eq_none]
  intro f hf hname
  have hlt := length_lt_freshName hf
  rw [decide_eq_true_iff] at hname
  rw [hname] at hlt
  exact absurd hlt (Nat.lt_irrefl _)

/-! ### The steps -/

/-- A directory is a machine whose steps do what they say, whatever its faults are. -/
theorem lawful_fileSystem (fault : Step → Option FileError) : (fileSystem fault).Lawful view where
  read {path r d d'} h := by
    have hd := run_read_snd fault path d
    rw [h] at hd
    exact congrArg get? hd
  read_ok {path content d d'} h := by
    simp only [fileSystem, StateT.run] at h
    split at h
    · cases h
    · cases h
    · next name _ hname =>
      split at h
      · next hcontent =>
        cases h
        exact ⟨name, view_locate_iff.mpr hname, hcontent⟩
      · cases h
  create_error {path e d d'} h := by
    simp only [fileSystem, StateT.run] at h
    split at h <;> cases h
    rfl
  create_ok {path temporary d d'} h := by
    simp only [fileSystem, StateT.run] at h
    split at h <;> cases h
    exact ⟨d.get?_freshName, d.get?_put _ _⟩
  write {temporary content r d d'} h name hne := by
    simp only [fileSystem, StateT.run] at h
    split at h <;> cases h
    · rfl
    · exact (congrFun (d.get?_put temporary content) name).trans (Function.update_of_ne hne _ _)
  write_ok {temporary content d d'} h := by
    simp only [fileSystem, StateT.run] at h
    split at h <;> cases h
    exact (congrFun (d.get?_put temporary content) temporary).trans (Function.update_self _ _ _)
  rename_error {temporary path e d d'} h := by
    simp only [fileSystem, StateT.run] at h
    split at h
    · cases h
      rfl
    · cases h
      rfl
    · split at h <;> cases h
      rfl
  rename_ok {temporary path d d'} h := by
    simp only [fileSystem, StateT.run] at h
    split at h
    · cases h
    · cases h
    · next name _ hname =>
      split at h
      · next content hcontent =>
        cases h
        refine ⟨name, content, view_locate_iff.mpr hname, hcontent, ?_⟩
        exact ((d.erase temporary).get?_put name content).trans (by rw [d.get?_erase]; rfl)
      · cases h
  remove {temporary d d'} h := by
    cases h
    exact d.get?_erase temporary

theorem readsAll_reliable : reliable.ReadsAll view := by
  rintro d path content ⟨name, hname, hcontent⟩
  exact run_read_of_get? (view_locate_iff.mp hname) hcontent

end Directory

end SignedControl.Tool
