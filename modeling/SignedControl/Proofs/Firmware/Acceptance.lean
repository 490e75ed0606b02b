import SignedControl.Firmware.Update
import SignedControl.Proofs.Firmware.Format

/-!
# Which updates are accepted

Five things decide about an update: whether the image is well-formed, which board it is for, whether
the node trusts any keys, whether one of them verifies the image, and the lock level. `Judged` lists the
five ways in which the first four come out; the lock level only turns some of the refusals into
acceptances, and the one for another board is not among them.

* `Judged`, `judged_judge`: all that the judgement of an image can be.
* `WellFormed.judge_of_board_ne`, `WellFormed.judge_nil`, `WellFormed.judge_of_verify`,
  `WellFormed.judge_of_not_verify`, `judge_of_split_eq_error`: when it is what.
* `checkUpdate_eq_verified_iff`: when a node takes an image as verified.
* `exists_checkUpdate_eq_ok_iff`: when a node that trusts some keys accepts an image.
* `update_policy`: the decision, and how it depends on the lock level and on the keys.
-/

namespace SignedControl.Firmware

/-- An image is for a board if its descriptor names this board or none. -/
def Descriptor.IsFor (d : Descriptor) (boardId : UInt32) : Prop :=
  d.boardId = 0 ∨ d.boardId = boardId

theorem checkBoard_of_isFor {d : Descriptor} {boardId : UInt32} (h : d.IsFor boardId) :
    checkBoard d boardId = .ok () := if_neg fun hne => not_or.mpr hne h

theorem checkBoard_of_not_isFor {d : Descriptor} {boardId : UInt32} (h : ¬ d.IsFor boardId) :
    checkBoard d boardId = .error (.boardMismatch boardId d.boardId) := if_pos (not_or.mp h)

/-- A byte string that is not split is too short, or has something wrong at its end. -/
theorem ne_noTrustedKeys_of_split {signed : Bytes} {e : Error} (h : split signed = .error e) :
    e ≠ .noTrustedKeys := by
  unfold split at h
  split at h
  · cases h
    nofun
  · simp only at h
    split at h
    · cases h
      nofun
    · split at h
      · cases h
      · cases h
        nofun

section Scheme

variable [SignatureScheme]

/-! ## The judgement -/

namespace WellFormed

variable {signed body : Bytes} {d : Descriptor} {keys : List PublicKey} {boardId : UInt32}

theorem judge_of_board_ne (h : WellFormed signed body d) (hboard : ¬ d.IsFor boardId)
    (keys : List PublicKey) :
    judge signed keys boardId = .error (false, .boardMismatch boardId d.boardId) := by
  unfold judge
  rw [split_eq_ok_iff.mpr h]
  simp only [checkBoard_of_not_isFor hboard]

theorem judge_of_isFor (h : WellFormed signed body d) (hboard : d.IsFor boardId) :
    judge signed keys boardId =
      if keys.isEmpty then .ok .noKeys
      else
        match verifyWithKeys signed keys with
        | .ok d => .ok (.verified d)
        | .error e => .error (true, e) := by
  unfold judge
  rw [split_eq_ok_iff.mpr h]
  cases verifyWithKeys signed keys with
  | ok d' => simp only [checkBoard_of_isFor hboard]
  | error e => simp only [checkBoard_of_isFor hboard]

theorem judge_nil (h : WellFormed signed body d) (hboard : d.IsFor boardId) :
    judge signed [] boardId = .ok .noKeys := h.judge_of_isFor hboard

theorem judge_of_verify (h : WellFormed signed body d) (hboard : d.IsFor boardId)
    (hv : ∃ key ∈ keys, key.verify body d.signature.bytes = true) :
    judge signed keys boardId = .ok (.verified d) := by
  have hkeys : keys ≠ [] := by
    obtain ⟨key, hkey, -⟩ := hv
    exact List.ne_nil_of_mem hkey
  rw [h.judge_of_isFor hboard, if_neg (by simpa using hkeys),
    verifyWithKeys_eq_ok_iff.mpr ⟨body, h, hv⟩]

theorem judge_of_not_verify (h : WellFormed signed body d) (hboard : d.IsFor boardId)
    (hkeys : keys ≠ []) (hv : ∀ key ∈ keys, key.verify body d.signature.bytes ≠ true) :
    judge signed keys boardId = .error (true, .signatureInvalid) := by
  have hany : ¬ keys.any (·.verify body d.signature.bytes) = true := by
    rw [List.any_eq_true]
    rintro ⟨key, hkey, h⟩
    exact hv key hkey h
  rw [h.judge_of_isFor hboard, if_neg (by simpa using hkeys), h.verifyWithKeys_eq hkeys,
    if_neg hany]

end WellFormed

theorem judge_of_split_eq_error {signed : Bytes} {e : Error} (h : split signed = .error e)
    (keys : List PublicKey) (boardId : UInt32) :
    judge signed keys boardId = .error (true, e) := by
  rw [judge, h]

/-- The judgement of an image, before the lock level is looked at. -/
inductive Judged (signed : Bytes) (keys : List PublicKey) (boardId : UInt32) :
    Except (Bool × Error) Acceptance → Prop where
  /-- There is no descriptor, or it is not right. -/
  | malformed {e : Error} (hsplit : split signed = .error e) :
    Judged signed keys boardId (.error (true, e))
  /-- The image is for another board. -/
  | otherBoard {body : Bytes} {d : Descriptor} (hform : WellFormed signed body d)
    (hboard : ¬ d.IsFor boardId) :
    Judged signed keys boardId (.error (false, .boardMismatch boardId d.boardId))
  /-- Nobody is trusted. -/
  | noKeys {body : Bytes} {d : Descriptor} (hform : WellFormed signed body d)
    (hboard : d.IsFor boardId) (hkeys : keys = []) : Judged signed keys boardId (.ok .noKeys)
  /-- A trusted key verifies the image. -/
  | verified {body : Bytes} {d : Descriptor} (hform : WellFormed signed body d)
    (hboard : d.IsFor boardId) (hv : ∃ key ∈ keys, key.verify body d.signature.bytes = true) :
    Judged signed keys boardId (.ok (.verified d))
  /-- None of the trusted keys does. -/
  | unverified {body : Bytes} {d : Descriptor} (hform : WellFormed signed body d)
    (hboard : d.IsFor boardId) (hkeys : keys ≠ [])
    (hv : ∀ key ∈ keys, key.verify body d.signature.bytes ≠ true) :
    Judged signed keys boardId (.error (true, .signatureInvalid))

theorem judged_judge (signed : Bytes) (keys : List PublicKey) (boardId : UInt32) :
    Judged signed keys boardId (judge signed keys boardId) := by
  cases hs : split signed with
  | error e =>
    rw [judge_of_split_eq_error hs]
    exact .malformed hs
  | ok p =>
    obtain ⟨body, d⟩ := p
    have h := split_eq_ok_iff.mp hs
    by_cases hboard : d.IsFor boardId
    · by_cases hkeys : keys = []
      · subst hkeys
        rw [h.judge_nil hboard]
        exact .noKeys h hboard rfl
      · by_cases hv : ∃ key ∈ keys, key.verify body d.signature.bytes = true
        · rw [h.judge_of_verify hboard hv]
          exact .verified h hboard hv
        · have hv' : ∀ key ∈ keys, key.verify body d.signature.bytes ≠ true :=
            fun key hkey h => hv ⟨key, hkey, h⟩
          rw [h.judge_of_not_verify hboard hkeys hv']
          exact .unverified h hboard hkeys hv'
    · rw [h.judge_of_board_ne hboard]
      exact .otherBoard h hboard

/-! ## The lock level -/

variable {signed : Bytes} {keys : List PublicKey} {boardId : UInt32}

theorem checkUpdate_of_accepted {a : Acceptance} (h : judge signed keys boardId = .ok a)
    (lockLevel : UInt8) : checkUpdate signed keys boardId lockLevel = .ok a := by
  rw [checkUpdate, h]

theorem checkUpdate_of_unforgivable {e : Error} (h : judge signed keys boardId = .error (false, e))
    (lockLevel : UInt8) : checkUpdate signed keys boardId lockLevel = .error e := by
  rw [checkUpdate, h]
  rfl

theorem checkUpdate_of_forgivable {e : Error} (h : judge signed keys boardId = .error (true, e)) :
    checkUpdate signed keys boardId 0 = .ok (.unlocked e) ∧
      ∀ lockLevel, lockLevel ≠ 0 → checkUpdate signed keys boardId lockLevel = .error e := by
  unfold checkUpdate
  rw [h]
  refine ⟨rfl, fun lockLevel hlock => ?_⟩
  simp [hlock]

/-- An update is taken as verified if it is for the node's board and a trusted key verifies it,
whatever the lock level. -/
theorem checkUpdate_eq_verified_iff {lockLevel : UInt8} {d : Descriptor} :
    checkUpdate signed keys boardId lockLevel = .ok (.verified d) ↔
      ∃ body, WellFormed signed body d ∧ d.IsFor boardId ∧
        ∃ key ∈ keys, key.verify body d.signature.bytes = true := by
  constructor
  · intro h
    have hj := judged_judge signed keys boardId
    unfold checkUpdate at h
    generalize judge signed keys boardId = r at hj h
    cases hj with
    | verified hform hboard hv =>
      cases h
      exact ⟨_, hform, hboard, hv⟩
    | noKeys => cases h
    | malformed | otherBoard | unverified =>
      simp only at h
      split at h <;> cases h
  · rintro ⟨body, hform, hboard, hv⟩
    exact checkUpdate_of_accepted (hform.judge_of_verify hboard hv) lockLevel

/-- What is refused is refused for another reason than that nobody is trusted. -/
theorem ne_noTrustedKeys_of_checkUpdate {lockLevel : UInt8} {e : Error}
    (h : checkUpdate signed keys boardId lockLevel = .error e) : e ≠ .noTrustedKeys := by
  have hj := judged_judge signed keys boardId
  unfold checkUpdate at h
  generalize judge signed keys boardId = r at hj h
  have hrefused : ∀ forgivable e', r = .error (forgivable, e') → e = e' := by
    rintro forgivable e' rfl
    simp only at h
    split at h
    · cases h
    · cases h
      rfl
  cases hj with
  | malformed hsplit =>
    rw [hrefused _ _ rfl]
    exact ne_noTrustedKeys_of_split hsplit
  | otherBoard =>
    rw [hrefused _ _ rfl]
    nofun
  | noKeys => cases h
  | verified => cases h
  | unverified =>
    rw [hrefused _ _ rfl]
    nofun

/-- What is accepted at one lock level is accepted, for the same reason, at a lower one. -/
theorem checkUpdate_of_le {lower lockLevel : UInt8} (hle : lower ≤ lockLevel) {a : Acceptance}
    (h : checkUpdate signed keys boardId lockLevel = .ok a) :
    checkUpdate signed keys boardId lower = .ok a := by
  unfold checkUpdate at h ⊢
  split at h
  · exact h
  · next forgivable e hj =>
    split at h
    · next hlock =>
      rw [Bool.and_eq_true, beq_iff_eq] at hlock
      obtain ⟨hforgivable, rfl⟩ := hlock
      have hzero : lower = 0 := UInt8.le_antisymm hle (UInt8.zero_le)
      rw [if_pos (by simp [hforgivable, hzero])]
      exact h
    · cases h

/-- A node that trusts some keys accepts the images that one of them verifies and, if it is unlocked,
all others; but none that is for another board. -/
theorem exists_checkUpdate_eq_ok_iff (hkeys : keys ≠ []) {lockLevel : UInt8} :
    (∃ a, checkUpdate signed keys boardId lockLevel = .ok a) ↔
      (∀ body d, WellFormed signed body d → d.IsFor boardId) ∧
        (lockLevel = 0 ∨ ∃ body d, WellFormed signed body d ∧
          ∃ key ∈ keys, key.verify body d.signature.bytes = true) := by
  have hj := judged_judge signed keys boardId
  generalize hr : judge signed keys boardId = r at hj
  cases hj with
  | malformed hsplit =>
    have hform : ∀ body d, ¬ WellFormed signed body d := by
      intro body d h
      rw [split_eq_ok_iff.mpr h] at hsplit
      cases hsplit
    obtain ⟨hzero, hother⟩ := checkUpdate_of_forgivable hr
    by_cases hlock : lockLevel = 0
    · subst hlock
      simp [hzero, hform]
    · simp [hother lockLevel hlock, hlock, hform]
  | otherBoard hform hboard =>
    rw [checkUpdate_of_unforgivable hr]
    constructor
    · rintro ⟨_, ⟨⟩⟩
    · rintro ⟨hall, -⟩
      exact absurd (hall _ _ hform) hboard
  | noKeys _ _ hnil => contradiction
  | verified hform hboard hv =>
    rw [checkUpdate_of_accepted hr]
    refine ⟨fun _ => ⟨fun body d h => ?_, .inr ⟨_, _, hform, hv⟩⟩, fun _ => ⟨_, rfl⟩⟩
    obtain ⟨-, rfl⟩ := h.unique hform
    exact hboard
  | unverified hform hboard _ hv =>
    obtain ⟨hzero, hother⟩ := checkUpdate_of_forgivable hr
    have hall : ∀ body d, WellFormed signed body d → d.IsFor boardId := by
      intro body d h
      obtain ⟨-, rfl⟩ := h.unique hform
      exact hboard
    by_cases hlock : lockLevel = 0
    · subst hlock
      rw [hzero]
      exact ⟨fun _ => ⟨hall, .inl rfl⟩, fun _ => ⟨_, rfl⟩⟩
    · rw [hother lockLevel hlock]
      constructor
      · rintro ⟨_, ⟨⟩⟩
      · rintro ⟨-, hzero' | ⟨body, d, h, key, hkey, hverify⟩⟩
        · contradiction
        · obtain ⟨rfl, rfl⟩ := h.unique hform
          exact absurd hverify (hv key hkey)

/-- The decision about an image. A well-formed one for another board is refused at every lock level. Any
other well-formed image is accepted at every lock level if nobody is trusted, or if a trusted key verifies
it, and then with its descriptor. All that remain are accepted at lock level zero and refused at every
other: the malformed ones with what is wrong with them, the well-formed ones because of the signature. So
an image is never refused because nobody is trusted, what is accepted at one lock level is accepted at the
lower ones, and a node that trusts somebody goes on accepting what it accepts when it trusts more. -/
theorem update_policy (signed : Bytes) (keys : List PublicKey) (boardId : UInt32) :
    (∀ body d, WellFormed signed body d → d.boardId ≠ 0 → d.boardId ≠ boardId → ∀ lockLevel,
      checkUpdate signed keys boardId lockLevel = .error (.boardMismatch boardId d.boardId)) ∧
    (∀ body d, WellFormed signed body d → d.boardId = 0 ∨ d.boardId = boardId →
      (keys = [] → ∀ lockLevel, checkUpdate signed keys boardId lockLevel = .ok .noKeys) ∧
      ((∃ key ∈ keys, key.verify body d.signature.bytes = true) → ∀ lockLevel,
        checkUpdate signed keys boardId lockLevel = .ok (.verified d)) ∧
      (keys ≠ [] → (∀ key ∈ keys, key.verify body d.signature.bytes ≠ true) →
        checkUpdate signed keys boardId 0 = .ok (.unlocked .signatureInvalid) ∧
        ∀ lockLevel, lockLevel ≠ 0 →
          checkUpdate signed keys boardId lockLevel = .error .signatureInvalid)) ∧
    ((∀ body d, ¬ WellFormed signed body d) → ∃ e, split signed = .error e ∧
      checkUpdate signed keys boardId 0 = .ok (.unlocked e) ∧
      ∀ lockLevel, lockLevel ≠ 0 → checkUpdate signed keys boardId lockLevel = .error e) ∧
    (∀ lockLevel, checkUpdate signed keys boardId lockLevel ≠ .error .noTrustedKeys) ∧
    (∀ lower lockLevel a, lower ≤ lockLevel → checkUpdate signed keys boardId lockLevel = .ok a →
      checkUpdate signed keys boardId lower = .ok a) ∧
    ∀ more lockLevel, keys ≠ [] → keys ⊆ more →
      (∃ a, checkUpdate signed keys boardId lockLevel = .ok a) →
      ∃ a, checkUpdate signed more boardId lockLevel = .ok a := by
  refine ⟨?_, ?_, ?_, ?_, fun _ _ _ hle h => checkUpdate_of_le hle h, ?_⟩
  · intro body d h hzero hne
    exact checkUpdate_of_unforgivable (h.judge_of_board_ne (not_or.mpr ⟨hzero, hne⟩) keys)
  · intro body d h hboard
    refine ⟨?_, fun hv => checkUpdate_of_accepted (h.judge_of_verify hboard hv), fun hkeys hv =>
      checkUpdate_of_forgivable (h.judge_of_not_verify hboard hkeys hv)⟩
    rintro rfl
    exact checkUpdate_of_accepted (h.judge_nil hboard)
  · intro hform
    cases hs : split signed with
    | ok p =>
      obtain ⟨body, d⟩ := p
      exact absurd (split_eq_ok_iff.mp hs) (hform body d)
    | error e =>
      exact ⟨e, rfl, checkUpdate_of_forgivable (judge_of_split_eq_error hs keys boardId)⟩
  · intro lockLevel h
    exact ne_noTrustedKeys_of_checkUpdate h rfl
  · intro more lockLevel hkeys hsub h
    obtain ⟨key, rest, rfl⟩ := List.exists_cons_of_ne_nil hkeys
    have hmore : more ≠ [] := List.ne_nil_of_mem (hsub List.mem_cons_self)
    obtain ⟨hboard, hv⟩ := (exists_checkUpdate_eq_ok_iff hkeys).mp h
    refine (exists_checkUpdate_eq_ok_iff hmore).mpr ⟨hboard, hv.imp_right ?_⟩
    rintro ⟨body, d, hform, trusted, hmem, hverify⟩
    exact ⟨body, d, hform, trusted, hsub hmem, hverify⟩

end Scheme

section KeyedHash

attribute [local instance] Line.keyedHash Line.lawful_keyedHash

theorem update_policy_mark :
    checkUpdate signedMark [otherKey, Dialogue.operator.publicKey] 7 2 =
        .ok (.verified markDescriptor) ∧
      checkUpdate signedMark [otherKey, Dialogue.operator.publicKey] 8 0 =
        .error (.boardMismatch 8 7) ∧
      checkUpdate signedMark [] 7 2 = .ok .noKeys ∧
      checkUpdate [0] [otherKey] 7 0 = .ok (.unlocked (.missingDescriptor 1)) := by
  obtain ⟨hother, hfor, -⟩ := update_policy signedMark [otherKey, Dialogue.operator.publicKey] 8
  obtain ⟨-, hown, -⟩ := update_policy signedMark [otherKey, Dialogue.operator.publicKey] 7
  obtain ⟨-, hnobody, -⟩ := update_policy signedMark [] 7
  obtain ⟨-, -, hshort, -⟩ := update_policy [0] [otherKey] 7
  refine ⟨(hown _ _ wellFormed_signedMark (.inr rfl)).2.1 ⟨_, ?_, verify_mark⟩ 2,
    hother _ _ wellFormed_signedMark (by decide) (by decide) 0,
    (hnobody _ _ wellFormed_signedMark (.inr rfl)).1 rfl 2, ?_⟩
  · exact List.mem_cons_of_mem _ List.mem_cons_self
  · obtain ⟨e, hs, hzero, -⟩ := hshort fun body d h => absurd h.isSigned (by decide)
    cases hs
    exact hzero

end KeyedHash

end SignedControl.Firmware
