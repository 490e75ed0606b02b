import SignedControl.Proofs.Firmware.Acceptance

/-!
# The board is not signed

The signature of an image covers the image, and not the descriptor in which it stands. Of the
descriptor's fields the mark and the length can be checked against the image; the board cannot. So
whoever has an image that a node verifies can make it one for any other board, or for all of them, and
needs no key for that. The check of the board keeps an image from the wrong node by mistake, and
nobody from sending it there.

* `withBoard`: a byte string with another board. `split_withBoard`: it is split as the byte string
  itself, but for the board.
* `verifyImage_withBoard`: so a key verifies both or neither.
* `checkUpdate_withBoard`: and a node that takes the one as verified takes the other, if its board
  suits the node.
* `board_unsigned`: what this makes of the check of the board.
-/

namespace SignedControl.Firmware

/-- A byte string with other bytes where a signed image has its board, from the seventy-second byte
from its end to the sixty-ninth. -/
def withBoard (signed : Bytes) (boardId : UInt32) : Bytes :=
  signed.take (signed.length - 72) ++ Bytes.le32 boardId ++ signed.drop (signed.length - 68)

/-! ## The fields of a trailer -/

/-- Eighty bytes are eight, a board, and sixty-eight more. -/
theorem exists_board {trailer : Bytes} (h : trailer.length = descriptorLength) :
    ∃ mark boardId rest, trailer = mark ++ Bytes.le32 boardId ++ rest ∧ mark.length = 8 ∧
      rest.length = 68 := by
  unfold descriptorLength at h
  have htail : 4 ≤ (trailer.drop 8).length := by
    rw [List.length_drop]
    omega
  obtain ⟨boardId, rest, hrest⟩ := Bytes.exists_le32_append htail
  refine ⟨trailer.take 8, boardId, rest, ?_, by rw [List.length_take]; omega, ?_⟩
  · rw [List.append_assoc, ← hrest, List.take_append_drop]
  · have hlength := congrArg List.length hrest
    rw [List.length_drop, List.length_append, Bytes.length_le32] at hlength
    omega

theorem withBoard_append (body : Bytes) {mark rest : Bytes} (hmark : mark.length = 8)
    (hrest : rest.length = 68) (boardId boardId' : UInt32) :
    withBoard (body ++ (mark ++ Bytes.le32 boardId ++ rest)) boardId' =
      body ++ (mark ++ Bytes.le32 boardId' ++ rest) := by
  have hfront : body ++ (mark ++ Bytes.le32 boardId ++ rest) =
      (body ++ mark) ++ (Bytes.le32 boardId ++ rest) := by simp only [List.append_assoc]
  have hback : body ++ (mark ++ Bytes.le32 boardId ++ rest) =
      (body ++ mark ++ Bytes.le32 boardId) ++ rest := by simp only [List.append_assoc]
  have hlength : (body ++ (mark ++ Bytes.le32 boardId ++ rest)).length = body.length + 80 := by
    simp only [List.length_append, Bytes.length_le32, hmark, hrest]
  have htake : (body ++ (mark ++ Bytes.le32 boardId ++ rest)).take (body.length + 80 - 72) =
      body ++ mark := by
    rw [hfront, List.take_left' (by rw [List.length_append, hmark]; rfl)]
  have hdrop : (body ++ (mark ++ Bytes.le32 boardId ++ rest)).drop (body.length + 80 - 68) =
      rest := by
    rw [hback, List.drop_left' (by simp only [List.length_append, Bytes.length_le32, hmark]; rfl)]
  rw [withBoard, hlength, htake, hdrop]
  simp only [List.append_assoc]

namespace Descriptor

theorem toBytes_eq (d : Descriptor) : d.toBytes =
    descriptorMagic ++ Bytes.le32 d.boardId ++ (Bytes.le32 d.imageLength ++ d.signature.bytes) := by
  simp only [toBytes, List.append_assoc]

/-- Only the mark decides whether there is a descriptor, and only the board depends on the board. -/
theorem ofBytes?_board {mark rest : Bytes} (hmark : mark.length = 8) (hrest : rest.length = 68)
    (boardId boardId' : UInt32) :
    ofBytes? (mark ++ Bytes.le32 boardId' ++ rest) =
      (ofBytes? (mark ++ Bytes.le32 boardId ++ rest)).map ({ · with boardId := boardId' }) := by
  have hlength : ∀ boardId, (mark ++ Bytes.le32 boardId ++ rest).length = descriptorLength := by
    intro boardId
    simp only [List.length_append, Bytes.length_le32, hmark, hrest]
    rfl
  cases hd : ofBytes? (mark ++ Bytes.le32 boardId ++ rest) with
  | none =>
    rw [ofBytes?_eq_none_iff (hlength boardId), List.append_assoc] at hd
    rw [Option.map_none, ofBytes?_eq_none_iff (hlength boardId'), List.append_assoc]
    rintro ⟨tail, htail⟩
    obtain ⟨rfl, -⟩ := List.append_inj htail hmark.symm
    exact hd (List.prefix_append _ _)
  | some d =>
    rw [ofBytes?_eq_some_iff, toBytes_eq] at hd
    obtain ⟨hfront, rfl⟩ := List.append_inj' hd (hrest.trans (by
      simp only [List.length_append, Bytes.length_le32, d.signature.length_eq]
      rfl))
    obtain ⟨rfl, -⟩ := List.append_inj' hfront rfl
    rw [Option.map_some, ofBytes?_eq_some_iff, toBytes_eq]

end Descriptor

/-! ## Images for another board -/

/-- With another board a byte string is split where it was, and refused for what was wrong with
it. -/
theorem split_withBoard {signed : Bytes} (hlength : descriptorLength ≤ signed.length)
    (boardId : UInt32) : split (withBoard signed boardId) =
      (split signed).map fun p => (p.1, { p.2 with boardId := boardId }) := by
  obtain ⟨body, trailer, rfl, htrailer⟩ := exists_trailer hlength
  obtain ⟨mark, old, rest, rfl, hmark, hrest⟩ := exists_board htrailer
  have htrailer' : (mark ++ Bytes.le32 boardId ++ rest).length = descriptorLength := by
    rw [← htrailer]
    simp only [List.length_append, Bytes.length_le32]
  rw [withBoard_append body hmark hrest, split_append htrailer', split_append htrailer,
    Descriptor.ofBytes?_board hmark hrest old boardId]
  cases Descriptor.ofBytes? (mark ++ Bytes.le32 old ++ rest) with
  | none => rfl
  | some d =>
    simp only [Option.map_some]
    split <;> rfl

theorem WellFormed.withBoard {signed body : Bytes} {d : Descriptor} (h : WellFormed signed body d)
    (boardId : UInt32) : WellFormed (withBoard signed boardId) body { d with boardId := boardId } := by
  have hlength : descriptorLength ≤ signed.length := by
    rw [h.signed_eq, length_append_trailer d.length_toBytes]
    exact Nat.le_add_left _ _
  rw [← split_eq_ok_iff, split_withBoard hlength, split_eq_ok_iff.mpr h]
  rfl

section Scheme

variable [SignatureScheme] {signed : Bytes} {keys : List PublicKey}

/-- A key verifies a byte string with another board as it verifies the byte string itself. -/
theorem verifyImage_withBoard (hlength : descriptorLength ≤ signed.length) (boardId : UInt32)
    (key : PublicKey) : verifyImage (withBoard signed boardId) key =
      (verifyImage signed key).map fun p => (boardId, p.2) := by
  unfold verifyImage
  rw [split_withBoard hlength]
  cases split signed with
  | error e => rfl
  | ok p =>
    simp only [Except.map]
    split <;> rfl

/-- What is verified for one board is verified with another board for every node that this board
suits. -/
theorem checkUpdate_withBoard {boardId : UInt32} {lockLevel : UInt8} {d : Descriptor}
    (h : checkUpdate signed keys boardId lockLevel = .ok (.verified d)) {named : UInt32}
    {node : UInt32} (hfor : named = 0 ∨ named = node) (nodeLevel : UInt8) :
    checkUpdate (withBoard signed named) keys node nodeLevel =
      .ok (.verified { d with boardId := named }) := by
  obtain ⟨body, hform, -, hv⟩ := checkUpdate_eq_verified_iff.mp h
  exact checkUpdate_eq_verified_iff.mpr ⟨body, hform.withBoard named, hfor, hv⟩

/-- The board is outside the signature. A byte string of eighty bytes or more with another board is
verified by the same keys, for that board, and is refused for the same reason where it is not. So if
a node takes an image as verified, a node with any other board that trusts the same keys takes it as
verified too, at every lock level, once its board has been put in, or that for all boards. -/
theorem board_unsigned :
    (∀ signed : Bytes, descriptorLength ≤ signed.length → ∀ boardId key,
      (verifyImage (withBoard signed boardId) key = .ok (boardId, true) ↔
        ∃ r, verifyImage signed key = .ok r) ∧
      ∀ e, verifyImage (withBoard signed boardId) key = .error e ↔
        verifyImage signed key = .error e) ∧
    ∀ (signed : Bytes) (keys : List PublicKey) (boardId : UInt32) (lockLevel : UInt8) d,
      checkUpdate signed keys boardId lockLevel = .ok (.verified d) →
        ∀ node nodeLevel,
          checkUpdate (withBoard signed node) keys node nodeLevel =
              .ok (.verified { d with boardId := node }) ∧
            checkUpdate (withBoard signed 0) keys node nodeLevel =
              .ok (.verified { d with boardId := 0 }) := by
  refine ⟨?_, ?_⟩
  · intro signed hlength boardId key
    rw [verifyImage_withBoard hlength]
    cases hr : verifyImage signed key with
    | error e => simp [Except.map]
    | ok r =>
      -- Verifying never answers anything but yes.
      obtain ⟨named, valid⟩ := r
      obtain ⟨rfl, -⟩ := verifyImage_eq_ok_iff.mp hr
      simp [Except.map]
  · intro signed keys boardId lockLevel d h node nodeLevel
    exact ⟨checkUpdate_withBoard h (.inr rfl) nodeLevel,
      checkUpdate_withBoard h (.inl rfl) nodeLevel⟩

end Scheme

section KeyedHash

attribute [local instance] Line.keyedHash Line.lawful_keyedHash

/-- An image for board seven is made one for board eight. -/
theorem board_unsigned_mark :
    verifyImage (withBoard signedMark 8) Dialogue.operator.publicKey = .ok (8, true) ∧
      checkUpdate signedMark [Dialogue.operator.publicKey] 7 2 = .ok (.verified markDescriptor) ∧
      checkUpdate (withBoard signedMark 8) [Dialogue.operator.publicKey] 8 2 =
        .ok (.verified { markDescriptor with boardId := 8 }) ∧
      withBoard signedMark 8 ≠ signedMark := by
  have hverified : checkUpdate signedMark [Dialogue.operator.publicKey] 7 2 =
      .ok (.verified markDescriptor) :=
    checkUpdate_eq_verified_iff.mpr
      ⟨_, wellFormed_signedMark, .inr rfl, _, List.mem_singleton_self _, verify_mark⟩
  have himage : verifyImage signedMark Dialogue.operator.publicKey = .ok (7, true) :=
    verifyImage_eq_ok_iff.mpr ⟨rfl, _, _, wellFormed_signedMark, rfl, verify_mark⟩
  obtain ⟨hone, hnode⟩ := board_unsigned
  refine ⟨(hone signedMark (by decide) 8 _).1.mpr ⟨_, himage⟩, hverified, ?_, by decide⟩
  exact (hnode signedMark _ 7 2 markDescriptor hverified 8 2).1

end KeyedHash

end SignedControl.Firmware
