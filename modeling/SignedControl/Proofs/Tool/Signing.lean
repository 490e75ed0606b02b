import SignedControl.Proofs.Tool.Files

/-!
# Signing an image file

Signing replaces the image file by the signed image. Whatever goes wrong on the way, the files are
as they were; if nothing does, the image file is signed, and the other files are as they were.

* `SignFirmware.Signing`, `SignFirmware.signing`: all that signing can come out as.
* `SignFirmware.run_signFile_of_isSigned`: an image file that is signed is left alone.
* `SignFirmware.signFile_all_or_nothing`: this, and that the signed file is verified, and that
  signing it again is refused.
-/

namespace SignedControl.Tool.SignFirmware

open SignedControl.Firmware hiding verifyImage Error

section Scheme

variable [SignatureScheme] {σ : Type} {fs : FileSystem (StateM σ)} {view : FileView σ} {s s' : σ}
  {image key pub : String} {boardId : UInt32} {content keyFile pubFile signed : Bytes}
  {privateKey : PrivateKey} {publicKey : PublicKey} {report : Report Nat}

/-! ## One run -/

/-- How signing an image file comes out. -/
inductive Signing (view : FileView σ) (s s' : σ) (image key : String) (boardId : UInt32) :
    Report Nat → Prop where
  /-- It has failed, and no file has changed. -/
  | failed {log : List LogLine} {f : Failure} (h : view.content? s' = view.content? s) :
    Signing view s s' image key boardId ⟨log, .error f⟩
  /-- The image file holds what the key makes of the image, and no other file has changed. -/
  | signed {log : List LogLine} {name : String} {content keyFile signed : Bytes}
      {privateKey : PrivateKey} (hkey : view.Holds s key keyFile)
      (hparse : PrivateKey.ofFile (.ok keyFile) = .ok privateKey)
      (himage : view.Holds s image content)
      (hsign : Firmware.sign content privateKey boardId = .ok signed)
      (hname : view.locate image = some name)
      (h : view.content? s' = Function.update (view.content? s) name (some signed)) :
    Signing view s s' image key boardId ⟨log, .ok signed.length⟩

omit [SignatureScheme] in
/-- A key is read from a file that can be read. -/
theorem exists_of_ofFile_eq_ok {r : Except FileError Bytes}
    (h : PrivateKey.ofFile r = .ok privateKey) : ∃ keyFile, r = .ok keyFile := by
  cases r with
  | error e => cases h
  | ok keyFile => exact ⟨keyFile, rfl⟩

theorem signing (hfs : fs.Lawful view) (h : (signFile fs image key boardId).run s = (report, s')) :
    Signing view s s' image key boardId report := by
  unfold signFile at h
  -- The two reads change no file. So the replacement is the only step that can, and it is all or
  -- nothing.
  rcases hkey : (fs.read key).run s with ⟨keyRead, s1⟩
  have hs1 := hfs.read hkey
  rw [run_bind_of_run hkey] at h
  cases hparse : PrivateKey.ofFile keyRead with
  | error e =>
    rw [hparse] at h
    cases h
    exact .failed hs1
  | ok privateKey =>
  rw [hparse] at h
  obtain ⟨keyFile, rfl⟩ := exists_of_ofFile_eq_ok hparse
  rcases himage : (fs.read image).run s1 with ⟨_ | content, s2⟩
  · have hs2 := hfs.read himage
    dsimp only at h
    rw [run_bind_of_run himage] at h
    cases h
    exact .failed (hs2.trans hs1)
  have hs2 := hfs.read himage
  dsimp only at h
  rw [run_bind_of_run himage] at h
  cases hsign : Firmware.sign content privateKey boardId with
  | error e =>
    simp only [hsign] at h
    cases h
    exact .failed (hs2.trans hs1)
  | ok signed =>
  simp only [hsign] at h
  rcases hreplace : (fs.replace image signed).run s2 with ⟨replaced, s3⟩
  have hcases := hfs.replaced hreplace
  rw [run_bind_of_run hreplace] at h
  cases hcases with
  | failed hs3 =>
    cases h
    exact .failed (hs3.trans (hs2.trans hs1))
  | done hname hs3 =>
    cases h
    rw [hs2, hs1] at hs3
    exact .signed (hfs.read_ok hkey) hparse ((hfs.read_ok himage).congr hs1.symm) hsign hname hs3

/-! ## After it -/

/-- An image file that is signed is left alone, and the tool says that it is signed. -/
theorem run_signFile_of_isSigned (hfs : fs.Lawful view) (hread : fs.ReadsAll view)
    (hkey : view.Holds s key keyFile) (hparse : PrivateKey.ofFile (.ok keyFile) = .ok privateKey)
    (himage : view.Holds s image content) (hsigned : isSigned content = true) (boardId : UInt32) :
    ((signFile fs image key boardId).run s).1.result =
        .error ⟨Firmware.Error.alreadySigned.message, []⟩ ∧
      view.content? ((signFile fs image key boardId).run s).2 = view.content? s := by
  obtain ⟨s1, hrun1, hs1⟩ := hread.run_read hfs hkey
  obtain ⟨s2, hrun2, hs2⟩ := hread.run_read hfs (himage.congr hs1)
  have hrun : (signFile fs image key boardId).run s =
      (⟨[], .error ⟨Firmware.Error.alreadySigned.message, []⟩⟩, s2) := by
    rw [signFile, run_bind_of_run hrun1, hparse]
    dsimp only
    rw [run_bind_of_run hrun2]
    simp only [sign_of_isSigned hsigned]
    rfl
  rw [hrun]
  exact ⟨rfl, hs2.trans hs1⟩

/-- With a key in a file, the check of an image file is that of its content. -/
theorem run_verifyFile_of_holds (hfs : fs.Lawful view) (hread : fs.ReadsAll view)
    (hpub : view.Holds s pub pubFile) (hparse : PublicKey.ofFile (.ok pubFile) = .ok publicKey)
    (himage : view.Holds s image content) (boardId : Option UInt32) :
    ((verifyFile fs image [pub] boardId).run s).1 =
      (verifyImage content [publicKey] boardId).mapError fun e => ⟨e.message, []⟩ := by
  obtain ⟨s1, hrun1, hs1⟩ := hread.run_read hfs hpub
  obtain ⟨s2, hrun2, -⟩ := hread.run_read hfs (himage.congr hs1)
  have hkeys : (readPublicKeys fs [pub]).run s = (.ok [publicKey], s1) := by
    rw [readPublicKeys, run_bind_of_run hrun1, hparse]
    rfl
  rw [verifyFile, run_bind_of_run hkeys]
  dsimp only
  rw [run_bind_of_run hrun2]
  rfl

/-- The tool verifies what a key has signed with the public half of the key, for the board that it
was signed for. -/
theorem verifyImage_of_sign_eq_ok [LawfulSignatureScheme]
    (h : Firmware.sign content privateKey boardId = .ok signed) :
    verifyImage signed [privateKey.publicKey] (some boardId) =
      .ok ⟨boardId, UInt32.ofNat content.length, privateKey.sign content⟩ :=
  (verifyImage_eq_ok_iff (List.cons_ne_nil _ _)).mpr
    ⟨content, wellFormed_of_sign h, .inr rfl, _, List.mem_singleton_self _,
      PublicKey.verify_sign privateKey content⟩

/-- If signing an image file fails, wherever that is, all files are as they were. If it does not,
the image file holds the image as the key in the key file signs it, eighty bytes longer than before,
and the other files are as they were. Then, as far as files that are there can be read, the image
file is verified with the public half of the key, for its board, and found to be of the old length;
and signing it again with the key file, for whatever board, is refused because it is signed, and
changes nothing. -/
theorem signFile_all_or_nothing (hfs : fs.Lawful view)
    (h : (signFile fs image key boardId).run s = (report, s')) :
    (∀ f, report.result = .error f → view.content? s' = view.content? s) ∧
    ∀ n, report.result = .ok n → ∃ content keyFile privateKey signed,
      view.Holds s image content ∧ view.Holds s key keyFile ∧
      PrivateKey.ofFile (.ok keyFile) = .ok privateKey ∧
      Firmware.sign content privateKey boardId = .ok signed ∧ n = content.length + 80 ∧
      view.Holds s' image signed ∧
      (∀ name, view.locate image ≠ some name → view.content? s' name = view.content? s name) ∧
      ∀ later : FileSystem (StateM σ), later.Lawful view → later.ReadsAll view →
        (LawfulSignatureScheme → ∀ pub pubFile, view.Holds s' pub pubFile →
          PublicKey.ofFile (.ok pubFile) = .ok privateKey.publicKey →
          ∃ d, ((verifyFile later image [pub] (some boardId)).run s').1 = .ok d ∧
            d.boardId = boardId ∧ d.imageLength.toNat = content.length) ∧
        (view.locate key ≠ view.locate image → ∀ boardId',
          ((signFile later image key boardId').run s').1.result =
              .error ⟨Firmware.Error.alreadySigned.message, []⟩ ∧
            view.content? ((signFile later image key boardId').run s').2 = view.content? s') := by
  cases signing hfs h with
  | failed hs' => exact ⟨fun _ _ => hs', fun n hn => nomatch hn⟩
  | @signed log name content keyFile signed privateKey hkey hparse himage hsign hname hs' =>
  refine ⟨fun f hf => (nomatch hf), fun n hn => ?_⟩
  cases hn
  have hform := wellFormed_of_sign hsign
  have hnew : view.Holds s' image signed :=
    ⟨name, hname, by rw [hs', Function.update_self]⟩
  have hothers : ∀ other, view.locate image ≠ some other →
      view.content? s' other = view.content? s other := by
    intro other hother
    rw [hs', Function.update_of_ne]
    rintro rfl
    exact hother hname
  refine ⟨content, keyFile, privateKey, signed, himage, hkey, hparse, hsign, ?_, hnew, hothers,
    fun later hlater hread => ⟨fun _ pub pubFile hpub hpubKey => ?_, fun hdiffer boardId' => ?_⟩⟩
  · rw [hform.signed_eq, length_append_trailer (Descriptor.length_toBytes _), descriptorLength]
  · refine ⟨_, ?_, rfl, hform.imageLength_eq⟩
    rw [run_verifyFile_of_holds hlater hread hpub hpubKey hnew, verifyImage_of_sign_eq_ok hsign]
    rfl
  · obtain ⟨keyName, hkeyName, hkeyHeld⟩ := hkey
    have hkept : view.Holds s' key keyFile := by
      refine ⟨keyName, hkeyName, ?_⟩
      rw [hothers keyName fun hsame => hdiffer (hkeyName.trans hsame.symm), hkeyHeld]
    exact run_signFile_of_isSigned hlater hread hkept hparse hnew hform.isSigned boardId'

end Scheme

/-! ### An image that is the mark of a descriptor -/

section KeyedHash

attribute [local instance] Line.keyedHash Line.lawful_keyedHash

/-- A directory with the operator's keys and an image that is not signed. -/
def bench : Directory where
  files := [("operator.key", Bytes.ofString Dialogue.operator.toText),
    ("operator.pub", Bytes.ofString Dialogue.operator.publicKey.toText),
    ("mark.bin", descriptorMagic)]

/-- A disk on which there is no room for another file's content. -/
def fullDisk : FileSystem (StateM Directory) :=
  Directory.fileSystem fun step =>
    if step = .write then some (.other "No space left on device (os error 28)") else none

/-- The operator signs the image for board seven. -/
def signMark (fs : FileSystem (StateM Directory)) : Report Nat × Directory :=
  (signFile fs "mark.bin" "operator.key" 7).run bench

theorem signFile_all_or_nothing_mark :
    ((signMark fullDisk).1.result.isOk = false ∧
      Directory.view.content? (signMark fullDisk).2 = Directory.view.content? bench) ∧
    (signMark Directory.reliable).1.result = .ok 88 ∧
    (∃ d, ((verifyFile Directory.reliable "mark.bin" ["operator.pub"] (some 7)).run
        (signMark Directory.reliable).2).1 = .ok d ∧ d.boardId = 7 ∧ d.imageLength.toNat = 8) ∧
    ((signFile Directory.reliable "mark.bin" "operator.key" 8).run
        (signMark Directory.reliable).2).1.result =
      .error ⟨Firmware.Error.alreadySigned.message, []⟩ := by
  have hfullDisk : fullDisk.Lawful Directory.view := Directory.lawful_fileSystem _
  have hreliable : Directory.reliable.Lawful Directory.view := Directory.lawful_fileSystem _
  have hkeyAt : Directory.view.locate "operator.key" = some "operator.key" := by decide +kernel
  have hpubAt : Directory.view.locate "operator.pub" = some "operator.pub" := by decide +kernel
  have himageAt : Directory.view.locate "mark.bin" = some "mark.bin" := by decide +kernel
  have hrun (fs : FileSystem (StateM Directory)) :
      (signFile fs "mark.bin" "operator.key" 7).run bench =
        ((signMark fs).1, (signMark fs).2) := rfl
  obtain ⟨f, hf⟩ : ∃ f, (signMark fullDisk).1.result = .error f := by
    have hnone : (signMark fullDisk).1.result.toOption = none := by decide +kernel
    cases hresult : (signMark fullDisk).1.result with
    | error f => exact ⟨f, rfl⟩
    | ok n =>
      rw [hresult] at hnone
      cases hnone
  have hfailed := (signFile_all_or_nothing hfullDisk (hrun fullDisk)).1 f hf
  have hok : (signMark Directory.reliable).1.result = .ok 88 :=
    toOption_eq_some_iff.mp (by decide +kernel)
  obtain ⟨content, keyFile, privateKey, signed, -, hkey, hparse, -, hlength, -, hothers, hlater⟩ :=
    (signFile_all_or_nothing hreliable (hrun Directory.reliable)).2 88 hok
  obtain ⟨hverify, hagain⟩ := hlater Directory.reliable hreliable Directory.readsAll_reliable
  -- What signing has read from the key file is the operator's key.
  have hkeyHeld : Directory.view.Holds bench "operator.key"
      (Bytes.ofString Dialogue.operator.toText) := ⟨"operator.key", hkeyAt, rfl⟩
  obtain rfl := hkey.unique hkeyHeld
  have hkeyText : PrivateKey.ofFile (.ok (Bytes.ofString Dialogue.operator.toText)) =
      .ok Dialogue.operator := toOption_eq_some_iff.mp (by decide +kernel)
  obtain rfl := Except.ok.inj (hparse.symm.trans hkeyText)
  have hpub : Directory.view.Holds (signMark Directory.reliable).2 "operator.pub"
      (Bytes.ofString Dialogue.operator.publicKey.toText) := by
    refine ⟨"operator.pub", hpubAt, (hothers "operator.pub" ?_).trans rfl⟩
    rw [himageAt]
    decide
  obtain ⟨d, hd, hboard, hold⟩ := hverify Line.lawful_keyedHash _ _ hpub ofFile_operatorKey
  have hlength : content.length = 8 := by omega
  refine ⟨⟨?_, hfailed⟩, hok, ⟨d, hd, hboard, hold.trans hlength⟩, (hagain ?_ 8).1⟩
  · rw [hf]
    rfl
  · rw [hkeyAt, himageAt]
    decide

end KeyedHash

end SignedControl.Tool.SignFirmware
