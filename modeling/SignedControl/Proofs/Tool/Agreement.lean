import SignedControl.Proofs.Firmware.Acceptance
import SignedControl.Tool.SignFirmware

/-!
# The signing tool and the node agree about an image

The tool checks the signature first and then the board; a node that trusts some keys checks the board
first and then the signature. So an image with two faults may be refused for different reasons. But
what the tool verifies for a board is what the nodes with this board take as verified, whatever their
lock level, and what the tool refuses is refused by all of them that are locked.

* `SignFirmware.run_verifyFile`: the check of an image file is that of its content.
* `SignFirmware.Checked`, `SignFirmware.checked_verifyImage`: all that the check can come out as.
* `SignFirmware.verifyImage_agrees`: the agreement.
-/

namespace SignedControl.Tool

open SignedControl.Firmware hiding verifyImage Error

/-! ## Files -/

namespace Directory

/-- After a step that changes no file, the next one meets the same files. -/
theorem run_bind_of_snd {α β : Type} {x : StateM Directory α} {files : Directory}
    (h : (x.run files).2 = files) (next : α → StateM Directory β) :
    (x >>= next).run files = (next (x.run files).1).run files := by
  rw [StateT.run_bind]
  exact congrArg (next (x.run files).1).run h

/-- Reading a file changes no file. -/
theorem run_read_snd (fault : Step → Option FileError) (path : String) (files : Directory) :
    (((fileSystem fault).read path).run files).2 = files := by
  simp only [fileSystem, StateT.run]
  split
  · rfl
  · rfl
  · next name _ _ => cases files.get? name <;> rfl

/-- What is read is what the file at the path holds. -/
theorem run_read_of_get? {files : Directory} {path name : String} {content : Bytes}
    (hpath : files.locate path = .ok name) (hname : files.get? name = some content) :
    (((fileSystem fun _ => none).read path).run files).1 = .ok content := by
  simp only [fileSystem, StateT.run, hpath, hname]

/-- A path without a slash that is no directory leads to the file of that name. -/
theorem locate_of_plain {name : String} (hlength : name.utf8ByteSize ≤ maxName)
    (hfields : Text.fields '/' name.toList = [name.toList])
    (hdots : name.toList ∉ [[], ['.'], ['.', '.']]) (files : Directory) :
    files.locate name = .ok name := by
  simp only [List.mem_cons, List.not_mem_nil, or_false, not_or] at hdots
  obtain ⟨hnil, hdot, hdots⟩ := hdots
  have hstart : name.toList.head? ≠ some '/' := by
    intro h
    obtain ⟨rest, hrest⟩ := List.head?_eq_some_iff.mp h
    have hmem := Text.not_mem_fields (hfields ▸ List.mem_singleton_self name.toList)
    rw [hrest] at hmem
    exact hmem List.mem_cons_self
  have hshort : ¬ maxPath < name.utf8ByteSize := by
    unfold maxName at hlength
    unfold maxPath
    omega
  have hfollow : files.follow .here name.toList = .ok (.entry name) := by
    simp [follow, hnil, hdot, hdots, Nat.not_lt.mpr hlength]
  have hsome : ¬ name.isEmpty = true := by
    rw [String.isEmpty_iff]
    rintro rfl
    exact hnil rfl
  unfold locate
  rw [if_neg hsome, if_neg hshort, hfields]
  simp [hstart, hfollow]

end Directory

namespace SignFirmware

section Scheme

variable [SignatureScheme] {content : Bytes} {keys : List PublicKey} {boardId : UInt32}

/-- Reading keys changes no file. -/
theorem run_readPublicKeys_snd (fault : Directory.Step → Option FileError) (paths : List String)
    (files : Directory) :
    ((readPublicKeys (Directory.fileSystem fault) paths).run files).2 = files := by
  induction paths with
  | nil => rfl
  | cons path paths ih =>
    rw [readPublicKeys, Directory.run_bind_of_snd (Directory.run_read_snd fault path files)]
    split
    · rfl
    · rw [Directory.run_bind_of_snd ih]
      rfl

/-- The check of an image file is that of its content, with the keys that the key files hold. -/
theorem run_verifyFile (fault : Directory.Step → Option FileError) {files : Directory}
    {image : String} {keyFiles : List String}
    (hkeys : ((readPublicKeys (Directory.fileSystem fault) keyFiles).run files).1 = .ok keys)
    (hcontent : (((Directory.fileSystem fault).read image).run files).1 = .ok content)
    (boardId : Option UInt32) :
    ((verifyFile (Directory.fileSystem fault) image keyFiles boardId).run files).1 =
      (verifyImage content keys boardId).mapError fun e => ⟨e.message, []⟩ := by
  rw [verifyFile, Directory.run_bind_of_snd (run_readPublicKeys_snd fault keyFiles files), hkeys]
  simp only
  rw [Directory.run_bind_of_snd (Directory.run_read_snd fault image files), hcontent]
  rfl

/-! ## The check of an image -/

theorem verifyImage_of_error {e : Firmware.Error} (h : verifyWithKeys content keys = .error e)
    (boardId : Option UInt32) : verifyImage content keys boardId = .error e := by
  rw [verifyImage, h]
  rfl

theorem verifyImage_of_ok {d : Descriptor} (h : verifyWithKeys content keys = .ok d) :
    verifyImage content keys (some boardId) = (checkBoard d boardId).map fun _ => d := by
  rw [verifyImage, h]
  rfl

/-- The check of an image with some keys and for a board, signature first. -/
inductive Checked (content : Bytes) (keys : List PublicKey) (boardId : UInt32) :
    Except Firmware.Error Descriptor → Prop where
  /-- There is no descriptor, or it is not right. -/
  | malformed {e : Firmware.Error} (hsplit : split content = .error e) :
    Checked content keys boardId (.error e)
  /-- None of the keys verifies the image. -/
  | unverified {body : Bytes} {d : Descriptor} (hform : WellFormed content body d)
    (hv : ∀ key ∈ keys, key.verify body d.signature.bytes ≠ true) :
    Checked content keys boardId (.error .signatureInvalid)
  /-- One of them does, but the image is for another board. -/
  | otherBoard {body : Bytes} {d : Descriptor} (hform : WellFormed content body d)
    (hv : ∃ key ∈ keys, key.verify body d.signature.bytes = true) (hboard : ¬ d.IsFor boardId) :
    Checked content keys boardId (.error (.boardMismatch boardId d.boardId))
  /-- One of them does, and the image is for the board. -/
  | verified {body : Bytes} {d : Descriptor} (hform : WellFormed content body d)
    (hv : ∃ key ∈ keys, key.verify body d.signature.bytes = true) (hboard : d.IsFor boardId) :
    Checked content keys boardId (.ok d)

theorem checked_verifyImage (hkeys : keys ≠ []) (content : Bytes) (boardId : UInt32) :
    Checked content keys boardId (verifyImage content keys (some boardId)) := by
  cases hs : split content with
  | error e =>
    have h : verifyWithKeys content keys = .error e := by
      rw [verifyWithKeys, if_neg (by simpa using hkeys), hs]
    rw [verifyImage_of_error h]
    exact .malformed hs
  | ok p =>
    obtain ⟨body, d⟩ := p
    have hform := Firmware.split_eq_ok_iff.mp hs
    by_cases hv : ∃ key ∈ keys, key.verify body d.signature.bytes = true
    · rw [verifyImage_of_ok (Firmware.verifyWithKeys_eq_ok_iff.mpr ⟨body, hform, hv⟩)]
      by_cases hboard : d.IsFor boardId
      · rw [Firmware.checkBoard_of_isFor hboard]
        exact .verified hform hv hboard
      · rw [Firmware.checkBoard_of_not_isFor hboard]
        exact .otherBoard hform hv hboard
    · have hnone : ∀ key ∈ keys, key.verify body d.signature.bytes ≠ true :=
        fun key hkey h => hv ⟨key, hkey, h⟩
      have h : verifyWithKeys content keys = .error .signatureInvalid := by
        rw [hform.verifyWithKeys_eq hkeys, if_neg]
        simpa using hnone
      rw [verifyImage_of_error h]
      exact .unverified hform hnone

/-- What the tool verifies: an image for the board, signed by one of the keys. -/
theorem verifyImage_eq_ok_iff (hkeys : keys ≠ []) {d : Descriptor} :
    verifyImage content keys (some boardId) = .ok d ↔
      ∃ body, WellFormed content body d ∧ d.IsFor boardId ∧
        ∃ key ∈ keys, key.verify body d.signature.bytes = true := by
  constructor
  · intro h
    have hc := checked_verifyImage hkeys content boardId
    rw [h] at hc
    cases hc with
    | verified hform hv hboard => exact ⟨_, hform, hboard, hv⟩
  · rintro ⟨body, hform, hboard, hv⟩
    rw [verifyImage_of_ok (verifyWithKeys_eq_ok_iff.mpr ⟨body, hform, hv⟩),
      checkBoard_of_isFor hboard]
    rfl

/-! ## The node -/

/-- A locked node refuses what the tool refuses. -/
theorem checkUpdate_of_verifyImage_eq_error (hkeys : keys ≠ []) {lockLevel : UInt8}
    (hlocked : lockLevel ≠ 0) {e : Firmware.Error}
    (h : verifyImage content keys (some boardId) = .error e) :
    checkUpdate content keys boardId lockLevel = .error e ∨
      e = .signatureInvalid ∧ ∃ actual,
        checkUpdate content keys boardId lockLevel = .error (.boardMismatch boardId actual) := by
  have hc := checked_verifyImage hkeys content boardId
  rw [h] at hc
  cases hc with
  | malformed hsplit =>
    have hj := judge_of_split_eq_error hsplit keys boardId
    exact .inl ((checkUpdate_of_forgivable hj).2 lockLevel hlocked)
  | @unverified body d hform hv =>
    by_cases hboard : d.IsFor boardId
    · have hj := hform.judge_of_not_verify hboard hkeys hv
      exact .inl ((checkUpdate_of_forgivable hj).2 lockLevel hlocked)
    · have hj := hform.judge_of_board_ne hboard keys
      exact .inr ⟨rfl, d.boardId, checkUpdate_of_unforgivable hj lockLevel⟩
  | otherBoard hform _ hboard =>
    have hj := hform.judge_of_board_ne hboard keys
    exact .inl (checkUpdate_of_unforgivable hj lockLevel)

/-- The tool and a node look at the same image with the same keys, for the same board. What the tool
verifies, the node takes as verified, with the same descriptor, and nothing else. What the tool refuses
is refused by the node if it is locked: for the same reason, unless the signature is wrong and the image
is for another board besides, which is what the node says and what the tool does not come to. It makes
no difference that the tool is given the image and the keys in files. -/
theorem verifyImage_agrees (content : Bytes) {keys : List PublicKey} (hkeys : keys ≠ [])
    (boardId : UInt32) (lockLevel : UInt8) :
    (∀ d, verifyImage content keys (some boardId) = .ok d ↔
      checkUpdate content keys boardId lockLevel = .ok (.verified d)) ∧
    (1 ≤ lockLevel → ∀ e, verifyImage content keys (some boardId) = .error e →
      checkUpdate content keys boardId lockLevel = .error e ∨
        e = .signatureInvalid ∧ ∃ actual,
          checkUpdate content keys boardId lockLevel = .error (.boardMismatch boardId actual)) ∧
    ∀ fault files image keyFiles,
      ((readPublicKeys (Directory.fileSystem fault) keyFiles).run files).1 = .ok keys →
      (((Directory.fileSystem fault).read image).run files).1 = .ok content →
      ((verifyFile (Directory.fileSystem fault) image keyFiles (some boardId)).run files).1 =
        (verifyImage content keys (some boardId)).mapError fun e => ⟨e.message, []⟩ := by
  refine ⟨?_, ?_, ?_⟩
  · intro d
    rw [verifyImage_eq_ok_iff hkeys, checkUpdate_eq_verified_iff]
  · intro hle e he
    have hlocked : lockLevel ≠ 0 := by
      rintro rfl
      exact absurd hle (by decide)
    exact checkUpdate_of_verifyImage_eq_error hkeys hlocked he
  · intro fault files image keyFiles hread hcontent
    exact run_verifyFile fault hread hcontent (some boardId)

end Scheme

section KeyedHash

attribute [local instance] Line.keyedHash Line.lawful_keyedHash

/-- A directory with the operator's key and the signed mark. -/
def workshop : Directory where
  files := [("operator.pub", Bytes.ofString Dialogue.operator.publicKey.toText),
    ("mark.bin", signedMark)]

theorem ofFile_operatorKey :
    PublicKey.ofFile (.ok (Bytes.ofString Dialogue.operator.publicKey.toText)) =
      .ok Dialogue.operator.publicKey := by
  have h : (PublicKey.ofFile (.ok (Bytes.ofString Dialogue.operator.publicKey.toText))).toOption =
      some Dialogue.operator.publicKey := by decide +kernel
  cases hkey : PublicKey.ofFile (.ok (Bytes.ofString Dialogue.operator.publicKey.toText)) with
  | error e => rw [hkey] at h; cases h
  | ok key => rw [hkey] at h; cases h; rfl

theorem read_operatorKey :
    ((readPublicKeys (Directory.fileSystem fun _ => none) ["operator.pub"]).run workshop).1 =
      .ok [Dialogue.operator.publicKey] := by
  have hplace : workshop.locate "operator.pub" = .ok "operator.pub" :=
    Directory.locate_of_plain (by decide +kernel) (by decide +kernel) (by decide +kernel) _
  have hread := Directory.run_read_of_get? hplace rfl
  rw [readPublicKeys, Directory.run_bind_of_snd (Directory.run_read_snd _ _ _), hread,
    ofFile_operatorKey]
  rfl

theorem read_mark :
    (((Directory.fileSystem fun _ => none).read "mark.bin").run workshop).1 = .ok signedMark := by
  have hplace : workshop.locate "mark.bin" = .ok "mark.bin" :=
    Directory.locate_of_plain (by decide +kernel) (by decide +kernel) (by decide +kernel) _
  exact Directory.run_read_of_get? hplace rfl

theorem verifyImage_mark (boardId : UInt32) :
    verifyImage signedMark [Dialogue.operator.publicKey] (some boardId) =
      (checkBoard markDescriptor boardId).map fun _ => markDescriptor :=
  verifyImage_of_ok (verifyWithKeys_eq_ok_iff.mpr
    ⟨_, wellFormed_signedMark, _, List.mem_singleton_self _, verify_mark⟩)

theorem verifyImage_agrees_mark :
    checkUpdate signedMark [Dialogue.operator.publicKey] 7 2 = .ok (.verified markDescriptor) ∧
      checkUpdate signedMark [Dialogue.operator.publicKey] 8 2 = .error (.boardMismatch 8 7) ∧
      ((verifyFile (Directory.fileSystem fun _ => none) "mark.bin" ["operator.pub"]
        (some 7)).run workshop).1 = .ok markDescriptor := by
  have hkeys : [Dialogue.operator.publicKey] ≠ [] := List.cons_ne_nil _ _
  obtain ⟨hverified, -, hfile⟩ := verifyImage_agrees signedMark hkeys 7 2
  obtain ⟨-, hrefused, -⟩ := verifyImage_agrees signedMark hkeys 8 2
  refine ⟨(hverified _).mp (verifyImage_mark 7), ?_, ?_⟩
  · obtain h | ⟨⟨⟩, -⟩ := hrefused (by decide) (.boardMismatch 8 7) (verifyImage_mark 8)
    exact h
  · rw [hfile _ _ _ _ read_operatorKey read_mark, verifyImage_mark]
    rfl

end KeyedHash

end SignFirmware

end SignedControl.Tool
