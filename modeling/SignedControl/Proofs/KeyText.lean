import SignedControl.Crypto.Ed25519
import SignedControl.Key
import SignedControl.Proofs.Base64
import SignedControl.Proofs.Text.Utf8

/-!
# The text of a key

A text holds a key if it is the text of that key, with or without blanks around it. There is no other
way to write a key: no other case of the header, no blank within, no missing or further padding, and no
symbol after the padding or with unused bits that are set.

* `KeyKind.Spells`: the grammar of key texts, for any number of bytes.
* `KeyKind.Reads`, `KeyKind.reads_decode`: all that reading a text can come out as.
* `KeyError.IsFormat.message`: the errors of format begin alike.
* `KeyKind.decode_encode`: the text of a key is read back.
* `KeyKind.decode_grammar`: which texts give a key, which a wrong length and which a wrong format.
-/

namespace SignedControl

theorem dropHeader?_eq_some_iff {header s t : List Char} :
    dropHeader? header s = some t ↔ s = header ++ t := by
  fun_induction dropHeader? header s with
  | case1 s => rw [Option.some.injEq, List.nil_append]
  | case2 h header => exact iff_of_false nofun nofun
  | case3 h header s ih => rw [ih, List.cons_append, List.cons.injEq, eq_self, true_and]
  | case4 h header c s hne =>
    refine iff_of_false nofun fun heq => hne ?_
    exact (List.cons.inj heq).1.symm

namespace KeyError

/-- The text is not of the format of its kind, or its bytes are not those of a key. -/
def IsFormat : KeyError → Prop
  | .header _ | .base64 _ | .notAPoint => True
  | .length _ | .file _ => False

/-- These errors share the beginning of their wording. -/
theorem IsFormat.message {e : KeyError} (h : e.IsFormat) :
    ∃ reason, e.message = "Invalid key format: " ++ reason := by
  cases e with
  | header kind =>
    refine ⟨"expected " ++ kind.header ++ " prefix", ?_⟩
    rw [← String.append_assoc, ← String.append_assoc]
    rfl
  | base64 cause =>
    refine ⟨"bad base64: " ++ cause.message, ?_⟩
    rw [← String.append_assoc]
    rfl
  | notAPoint => exact ⟨"invalid public key: signature error: Cannot decompress Edwards point", rfl⟩
  | length | file => cases h

end KeyError

/-! ## Base64 as characters -/

/-- The characters of the base64 text of a byte string. -/
def base64Text (bytes : Bytes) : List Char :=
  (Base64.encode bytes).map fun b => Char.ofNat b.toNat

theorem symbol_ascii : ∀ v < 64, (Base64.symbol v).toNat < 0x80 := by decide

theorem isBlank_symbol : ∀ v < 64, Text.isBlank (Char.ofNat (Base64.symbol v).toNat) = false := by
  decide

/-- Base64 as characters has the bytes of base64. -/
theorem encode_base64Text (bytes : Bytes) :
    Text.Utf8.encode (base64Text bytes) = Base64.encode bytes := by
  refine Text.Utf8.encode_ascii fun b hb => ?_
  rcases (Base64.spells_encode bytes).mem hb with rfl | ⟨v, hv, rfl⟩
  · decide
  · exact symbol_ascii v hv

/-- Base64 has no blank in it. -/
theorem isBlank_of_mem_base64Text {bytes : Bytes} {c : Char} (hc : c ∈ base64Text bytes) :
    Text.isBlank c = false := by
  obtain ⟨b, hb, rfl⟩ := List.mem_map.mp hc
  rcases (Base64.spells_encode bytes).mem hb with rfl | ⟨v, hv, rfl⟩
  · decide
  · exact isBlank_symbol v hv

/-- Characters are base64 of the bytes if they are those that are written for them. -/
theorem spells_utf8_iff {body : List Char} {bytes : Bytes} :
    Base64.Spells (Text.Utf8.encode body) bytes ↔ body = base64Text bytes := by
  rw [Base64.spells_iff_eq_encode, ← encode_base64Text]
  constructor
  · exact Text.Utf8.encode_injective
  · rintro rfl
    rfl

namespace KeyKind

variable {kind kind' : KeyKind} {text : String} {bytes bytes' : Bytes} {key key' : Block keyLength}

/-- Without the blanks around it, the text is the header of its kind and base64 of the bytes. -/
def Spells (kind : KeyKind) (text : String) (bytes : Bytes) : Prop :=
  ∃ body, Text.trim text.toList = kind.header.toList ++ body ∧
    Base64.Spells (Text.Utf8.encode body) bytes

theorem spells_iff : kind.Spells text bytes ↔
    Text.trim text.toList = kind.header.toList ++ base64Text bytes := by
  constructor
  · rintro ⟨body, htext, hbody⟩
    rw [htext, spells_utf8_iff.mp hbody]
  · intro h
    exact ⟨_, h, spells_utf8_iff.mpr rfl⟩

theorem toList_encode (kind : KeyKind) (key : Block keyLength) :
    (kind.encode key).toList = kind.header.toList ++ base64Text key.bytes := by
  rw [encode, String.toList_append, String.toList_ofList, base64Text]

/-- The texts that spell the bytes of a key are its own text, with or without blanks around it. -/
theorem spells_key_iff :
    kind.Spells text key.bytes ↔ Text.trim text.toList = (kind.encode key).toList := by
  rw [spells_iff, toList_encode]

/-- The headers differ before either of them ends. -/
theorem header_append_inj {body body' : List Char}
    (h : kind.header.toList ++ body = kind'.header.toList ++ body') : kind = kind' ∧ body = body' := by
  cases kind <;> cases kind'
  case privateKey.privateKey | publicKey.publicKey =>
    exact ⟨rfl, List.append_cancel_left h⟩
  · simp [header] at h
  · simp [header] at h

/-- A text spells one byte string, and under one kind. -/
theorem Spells.unique (h : kind.Spells text bytes) (h' : kind'.Spells text bytes') :
    kind = kind' ∧ bytes = bytes' := by
  obtain ⟨body, htext, hbody⟩ := h
  obtain ⟨body', htext', hbody'⟩ := h'
  obtain ⟨rfl, rfl⟩ := header_append_inj (htext.symm.trans htext')
  rw [← Base64.decode_eq_ok_iff] at hbody hbody'
  exact ⟨rfl, Except.ok.inj (hbody.symm.trans hbody')⟩

/-- How reading a text comes out. -/
inductive Reads (kind : KeyKind) (text : String) : Except KeyError (Block keyLength) → Prop where
  /-- The text is that of a key. -/
  | key {key : Block keyLength} (h : kind.Spells text key.bytes) : Reads kind text (.ok key)
  /-- The text would be that of a key, but for the number of its bytes. -/
  | length {bytes : Bytes} (h : kind.Spells text bytes) (hlength : bytes.length ≠ keyLength) :
    Reads kind text (.error (.length bytes.length))
  /-- What follows the header is not base64. -/
  | base64 {body : List Char} {e : Base64.Error}
      (htext : Text.trim text.toList = kind.header.toList ++ body)
      (h : ∀ bytes, ¬ Base64.Spells (Text.Utf8.encode body) bytes) :
    Reads kind text (.error (.base64 e))
  /-- There is no header, or not that of the kind. -/
  | header (h : ¬ kind.header.toList <+: Text.trim text.toList) :
    Reads kind text (.error (.header kind))

theorem reads_decode (kind : KeyKind) (text : String) : kind.Reads text (kind.decode text) := by
  rw [decode]
  cases hheader : dropHeader? kind.header.toList (Text.trim text.toList) with
  | none =>
    refine .header ?_
    rintro ⟨body, htext⟩
    rw [dropHeader?_eq_some_iff.mpr htext.symm] at hheader
    cases hheader
  | some body =>
    have htext := dropHeader?_eq_some_iff.mp hheader
    dsimp only
    cases hbody : Base64.decode (Text.Utf8.encode body) with
    | error e =>
      refine .base64 htext fun bytes hbytes => ?_
      rw [Base64.decode_eq_ok_iff.mpr hbytes] at hbody
      cases hbody
    | ok bytes =>
      have hspells : kind.Spells text bytes := ⟨body, htext, Base64.decode_eq_ok_iff.mp hbody⟩
      dsimp only
      cases hkey : (Block.ofBytes? bytes : Option (Block keyLength)) with
      | none =>
        refine .length hspells fun hlength => ?_
        rw [Block.ofBytes?, dif_pos hlength] at hkey
        cases hkey
      | some key =>
        refine .key ?_
        rwa [← Block.ofBytes?_eq_some_iff.mp hkey]

/-- A text of the wrong format spells nothing. -/
theorem Reads.not_spells {e : KeyError} (hreads : kind.Reads text (.error e)) (he : e.IsFormat)
    (bytes : Bytes) : ¬ kind.Spells text bytes := by
  rintro ⟨body, htext, hbody⟩
  cases hreads with
  | length => exact he
  | base64 htext' hno =>
    obtain ⟨-, rfl⟩ := header_append_inj (htext'.symm.trans htext)
    exact hno bytes hbody
  | header hno => exact hno ⟨body, htext.symm⟩

/-- A text that spells bytes gives the key of these bytes, or their number. -/
theorem Reads.of_spells {r : Except KeyError (Block keyLength)} (hreads : kind.Reads text r)
    (h : kind.Spells text bytes) : (∃ key : Block keyLength, key.bytes = bytes ∧ r = .ok key) ∨
      bytes.length ≠ keyLength ∧ r = .error (.length bytes.length) := by
  cases hr : hreads with
  | key hkey => exact .inl ⟨_, (hkey.unique h).2, rfl⟩
  | length hbytes hlength =>
    obtain ⟨-, rfl⟩ := hbytes.unique h
    exact .inr ⟨hlength, rfl⟩
  | base64 | header => exact absurd h (hreads.not_spells trivial bytes)

theorem decode_eq_ok_iff : kind.decode text = .ok key ↔ kind.Spells text key.bytes := by
  have hreads := reads_decode kind text
  constructor
  · intro h
    rw [h] at hreads
    cases hreads with
    | key hkey => exact hkey
  · intro h
    rcases hreads.of_spells h with ⟨key', hbytes, hr⟩ | ⟨hlength, -⟩
    · rw [hr, Block.ext hbytes]
    · exact absurd key.length_eq hlength

theorem decode_eq_length_iff {n : Nat} : kind.decode text = .error (.length n) ↔
    n ≠ keyLength ∧ ∃ bytes, bytes.length = n ∧ kind.Spells text bytes := by
  have hreads := reads_decode kind text
  constructor
  · intro h
    rw [h] at hreads
    cases hreads with
    | length hbytes hlength => exact ⟨hlength, _, rfl, hbytes⟩
  · rintro ⟨hn, bytes, rfl, h⟩
    rcases hreads.of_spells h with ⟨key, rfl, -⟩ | ⟨-, hr⟩
    · exact absurd key.length_eq hn
    · exact hr

theorem decode_isFormat_iff : (∃ e, kind.decode text = .error e ∧ e.IsFormat) ↔
    ∀ bytes, ¬ kind.Spells text bytes := by
  have hreads := reads_decode kind text
  constructor
  · rintro ⟨e, h, he⟩
    rw [h] at hreads
    exact hreads.not_spells he
  · intro hno
    cases hr : kind.decode text with
    | ok key => exact absurd (decode_eq_ok_iff.mp hr) (hno _)
    | error e =>
      rw [hr] at hreads
      refine ⟨e, rfl, ?_⟩
      cases hreads with
      | length h _ => exact hno _ h
      | base64 | header => exact trivial

/-! ## Texts that are written -/

/-- A header has no blank in it. -/
theorem isBlank_of_mem_header {c : Char} (hc : c ∈ kind.header.toList) : Text.isBlank c = false := by
  have hall : kind.header.toList.all (! Text.isBlank ·) = true := by cases kind <;> rfl
  exact (Bool.not_eq_true' _).mp (List.all_eq_true.mp hall c hc)

/-- The text of a key neither starts nor ends with a blank. -/
theorem trimmed_encode (kind : KeyKind) (key : Block keyLength) :
    Text.Trimmed (kind.encode key).toList := by
  refine Text.trimmed_of_forall fun c hc => ?_
  rw [toList_encode, List.mem_append] at hc
  rcases hc with hc | hc
  · exact isBlank_of_mem_header hc
  · exact isBlank_of_mem_base64Text hc

/-- The text of a key is read back, under its kind. -/
theorem decode_encode (kind : KeyKind) (key : Block keyLength) :
    kind.decode (kind.encode key) = .ok key := by
  rw [decode_eq_ok_iff, spells_key_iff, Text.trim_eq_self (trimmed_encode kind key)]

end KeyKind

theorem PublicKey.ofText_eq_ok_iff [SignatureScheme] {text : String} {key : PublicKey} :
    PublicKey.ofText text = .ok key ↔ SignatureScheme.isPublicKey key.block = true ∧
      Text.trim text.toList = key.toText.toList := by
  rw [ofText, bind_eq_ok_iff]
  simp only [KeyKind.decode_eq_ok_iff, KeyKind.spells_key_iff, toText]
  constructor
  · rintro ⟨block, htext, hkey⟩
    unfold ofBytes at hkey
    split at hkey
    · next hpoint =>
      cases hkey
      exact ⟨hpoint, htext⟩
    · cases hkey
  · rintro ⟨hpoint, htext⟩
    exact ⟨key.block, htext, if_pos hpoint⟩

namespace KeyKind

/-- A text gives a key exactly if it is the text of that key but for blanks around it. It gives a wrong
length exactly if it is, but for blanks, the header of its kind and base64 of so many bytes, and a
format error in all other cases. So no text gives a key under both kinds, and a text gives a public key
exactly if that is one and this is its text but for blanks. -/
theorem decode_grammar [SignatureScheme] (kind : KeyKind) (text : String) :
    (∀ key, kind.decode text = .ok key ↔ Text.trim text.toList = (kind.encode key).toList) ∧
    (∀ n, kind.decode text = .error (.length n) ↔
      n ≠ keyLength ∧ ∃ bytes, bytes.length = n ∧ kind.Spells text bytes) ∧
    ((∃ e, kind.decode text = .error e ∧ e.IsFormat) ↔
      (∀ key, Text.trim text.toList ≠ (kind.encode key).toList) ∧
        ∀ bytes, bytes.length ≠ keyLength → ¬ kind.Spells text bytes) ∧
    ¬ ((∃ key, privateKey.decode text = .ok key) ∧ ∃ key, publicKey.decode text = .ok key) ∧
    ∀ key, PublicKey.ofText text = .ok key ↔ SignatureScheme.isPublicKey key.block = true ∧
      Text.trim text.toList = key.toText.toList := by
  refine ⟨?_, ?_, ?_, ?_, ?_⟩
  · intro key
    rw [decode_eq_ok_iff, spells_key_iff]
  · intro n
    exact decode_eq_length_iff
  · rw [decode_isFormat_iff]
    constructor
    · intro hno
      exact ⟨fun key h => hno key.bytes (spells_key_iff.mpr h), fun bytes _ => hno bytes⟩
    · rintro ⟨hkey, hlength⟩ bytes h
      by_cases hbytes : bytes.length = keyLength
      · exact hkey ⟨bytes, hbytes⟩ (spells_key_iff.mp h)
      · exact hlength bytes hbytes h
  · rintro ⟨⟨key, h⟩, key', h'⟩
    cases ((decode_eq_ok_iff.mp h).unique (decode_eq_ok_iff.mp h')).1
  · intro key
    exact PublicKey.ofText_eq_ok_iff

/-- The bytes of the base point, as a public key. -/
def basePointKey : PublicKey := ⟨⟨0x58 :: List.replicate 31 0x66, rfl⟩⟩

/-- The text of a public key with a tab before it and an ideographic space and a line feed after it is
read as that key, and not as a private key. One byte is too short for a key. -/
theorem decode_grammar_blanks :
    PublicKey.ofText ("\t" ++ basePointKey.toText ++ "\u3000\n") = .ok basePointKey ∧
      (∀ key, privateKey.decode ("\t" ++ basePointKey.toText ++ "\u3000\n") ≠ .ok key) ∧
      publicKey.decode "PUBLIC_KEYV1:AA==" = .error (.length 1) := by
  have htrim : Text.trim ("\t" ++ basePointKey.toText ++ "\u3000\n").toList =
      basePointKey.toText.toList := by decide +kernel
  obtain ⟨hkey, -, -, hone, hpoint⟩ :=
    decode_grammar publicKey ("\t" ++ basePointKey.toText ++ "\u3000\n")
  refine ⟨(hpoint basePointKey).mpr ⟨by decide +kernel, htrim⟩, ?_, ?_⟩
  · intro key h
    exact hone ⟨⟨key, h⟩, _, (hkey basePointKey.block).mpr htrim⟩
  · refine ((decode_grammar publicKey "PUBLIC_KEYV1:AA==").2.1 1).mpr
      ⟨by decide, [0], rfl, "AA==".toList, by decide +kernel, ?_⟩
    exact spells_utf8_iff.mpr (by decide)

end KeyKind

end SignedControl
