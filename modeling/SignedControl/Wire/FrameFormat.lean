import SignedControl.Command.Message
import SignedControl.Wire.Reader

/-!
# The wire form of frames

Requests and replies have the same shape: three 32-bit words, the fields 1 to 3, and a byte
string, field 4. A frame has the two node numbers as fields 1 and 2, and a request as field 3 or a
reply as field 4.

Writers put the fields in the order of their numbers and leave out zeros and empty byte strings,
but never a body. Readers accept the fields in any order and any number of times: the last value
counts, a body of the same kind adds to the one so far, and a body of the other kind replaces it.
-/

namespace SignedControl.Wire

/-- How many levels of groups and messages a reader enters. -/
def maxLevels : Nat := 100

/-- The common shape of requests and replies. -/
structure Command where
  /-- Field 1. -/
  sequence : UInt32
  /-- Field 2. -/
  operation : UInt32
  /-- Field 3: the length of the signature, or the result. -/
  third : UInt32
  /-- Field 4. -/
  data : Bytes
deriving DecidableEq

namespace Command

/-- The shape with nothing set. -/
def empty : Command := ⟨0, 0, 0, []⟩

/-- The shape of a request. -/
def ofRequest (r : Request) : Command := ⟨r.sequence, r.operation, r.signatureLength, r.data⟩

/-- The request with a shape. -/
def toRequest (c : Command) : Request := ⟨c.sequence, c.operation, c.third, c.data⟩

/-- The shape of a reply. -/
def ofResponse (r : Response) : Command := ⟨r.sequence, r.operation, r.result, r.data⟩

/-- The reply with a shape. -/
def toResponse (c : Command) : Response := ⟨c.sequence, c.operation, c.third, c.data⟩

@[simp] theorem toRequest_ofRequest (r : Request) : (ofRequest r).toRequest = r := rfl

@[simp] theorem toResponse_ofResponse (r : Response) : (ofResponse r).toResponse = r := rfl

end Command

/-! ## Writing -/

/-- A 32-bit field; zero is left out. -/
def encodeUInt32 (tag : Nat) (w : UInt32) : Bytes :=
  if w = 0 then [] else Key.encode ⟨tag, .varint⟩ ++ Varint.encode w.toNat

/-- A length-delimited field, written even if it is empty. -/
def encodeDelimited (tag : Nat) (b : Bytes) : Bytes :=
  Key.encode ⟨tag, .lengthDelimited⟩ ++ Varint.encode b.length ++ b

/-- A byte-string field; the empty string is left out. -/
def encodeBytes (tag : Nat) (b : Bytes) : Bytes :=
  if b.isEmpty then [] else encodeDelimited tag b

/-- The bytes of a request's or a reply's shape. -/
def Command.encode (c : Command) : Bytes :=
  encodeUInt32 1 c.sequence ++ encodeUInt32 2 c.operation ++ encodeUInt32 3 c.third ++
    encodeBytes 4 c.data

/-- The bytes of a frame's body. -/
def encodeBody : FrameBody → Bytes
  | .request r => encodeDelimited 3 (Command.ofRequest r).encode
  | .response r => encodeDelimited 4 (Command.ofResponse r).encode

/-- The bytes of a frame. -/
def encodeFrame (f : Frame) : Bytes :=
  encodeUInt32 1 f.source ++ encodeUInt32 2 f.target ++ (f.body.map encodeBody).getD []

/-! ## Reading -/

/-- The names under which a shape's fields appear in errors. -/
structure CommandNames where
  /-- The message's name. -/
  message : String
  /-- The name of the third field. -/
  third : String

/-- The names of a request's fields. -/
def requestNames : CommandNames := ⟨"SecureCommandRequest", "sig_length"⟩

/-- The names of a reply's fields. -/
def responseNames : CommandNames := ⟨"SecureCommandResponse", "result"⟩

/-- Reads the value of one field of a request's or a reply's shape. -/
def Command.readField (names : CommandNames) (levels : Nat) (c : Command) (key : Key) (b : Bytes) :
    Except DecodeError (Command × Bytes) :=
  let word (field : String) := within ⟨names.message, field⟩ (unnamed (readUInt32 key.wire b))
  match key.tag with
  | 1 => storing (fun w => { c with sequence := w }) (word "sequence")
  | 2 => storing (fun w => { c with operation := w }) (word "operation")
  | 3 => storing (fun w => { c with third := w }) (word names.third)
  | 4 =>
    storing (fun data => { c with data := data })
      (within ⟨names.message, "data"⟩ (unnamed (readBytes key.wire b)))
  | _ => (unnamed (skipValue levels key b)).map (c, ·)

theorem length_le_of_readUInt32 {wire : WireType} {b rest : Bytes} {w : UInt32}
    (h : readUInt32 wire b = .ok (w, rest)) : rest.length ≤ b.length := by
  simp only [readUInt32, bind, Except.bind, pure, Except.pure] at h
  split at h
  · cases h
  · split at h
    · cases h
    · next hv => cases h; exact Nat.le_of_lt (length_lt_of_readVarint hv)

theorem length_le_of_readBytes {wire : WireType} {b data rest : Bytes}
    (h : readBytes wire b = .ok (data, rest)) : rest.length ≤ b.length := by
  simp only [readBytes, bind, Except.bind] at h
  split at h
  · cases h
  · split at h
    · cases h
    · next hv =>
      exact Nat.le_trans (length_le_of_takeBytes h) (Nat.le_of_lt (length_lt_of_readVarint hv))

theorem length_le_of_skipped {σ : Type} {s s' : σ} {levels : Nat} {key : Key} {b rest : Bytes}
    (h : (unnamed (skipValue levels key b)).map (s, ·) = .ok (s', rest)) :
    rest.length ≤ b.length := by
  cases hs : unnamed (skipValue levels key b) with
  | error e => rw [hs] at h; cases h
  | ok rest' => rw [hs] at h; cases h; exact length_le_of_skipValue (unnamed_eq_ok.mp hs)

theorem Command.length_le_of_readField {names : CommandNames} {levels : Nat} {c c' : Command}
    {key : Key} {b rest : Bytes} (h : c.readField names levels key b = .ok (c', rest)) :
    rest.length ≤ b.length := by
  simp only [Command.readField] at h
  split at h
  · obtain ⟨w, hw, -⟩ := storing_eq_ok.mp h
    exact length_le_of_readUInt32 (by simpa using hw)
  · obtain ⟨w, hw, -⟩ := storing_eq_ok.mp h
    exact length_le_of_readUInt32 (by simpa using hw)
  · obtain ⟨w, hw, -⟩ := storing_eq_ok.mp h
    exact length_le_of_readUInt32 (by simpa using hw)
  · obtain ⟨data, hd, -⟩ := storing_eq_ok.mp h
    exact length_le_of_readBytes (by simpa using hd)
  · exact length_le_of_skipped h

/-- Reads the fields of a request's or a reply's shape. -/
def Command.reader (names : CommandNames) (levels : Nat) : FieldReader Command :=
  .ofKeyed (readField names levels) length_le_of_readField

/-- The request that a request in a frame adds to, if the body so far is one. -/
def requestSoFar : Option FrameBody → Command
  | some (.request r) => .ofRequest r
  | _ => .empty

/-- The reply that a reply in a frame adds to, if the body so far is one. -/
def responseSoFar : Option FrameBody → Command
  | some (.response r) => .ofResponse r
  | _ => .empty

/-- Reads the value of one field of a frame. -/
def readFrameField (f : Frame) (key : Key) (b : Bytes) : Except DecodeError (Frame × Bytes) :=
  let word (field : String) := within ⟨"Frame", field⟩ (unnamed (readUInt32 key.wire b))
  let body (names : CommandNames) (soFar : Command) :=
    within ⟨"Frame", "body"⟩
      ((Command.reader names (maxLevels - 1)).readNested maxLevels soFar key.wire b)
  match key.tag with
  | 1 => storing (fun w => { f with source := w }) (word "source_node")
  | 2 => storing (fun w => { f with target := w }) (word "target_node")
  | 3 =>
    storing (fun c => { f with body := some (.request c.toRequest) })
      (body requestNames (requestSoFar f.body))
  | 4 =>
    storing (fun c => { f with body := some (.response c.toResponse) })
      (body responseNames (responseSoFar f.body))
  | _ => (unnamed (skipValue maxLevels key b)).map (f, ·)

theorem length_le_of_readFrameField {f f' : Frame} {key : Key} {b rest : Bytes}
    (h : readFrameField f key b = .ok (f', rest)) : rest.length ≤ b.length := by
  simp only [readFrameField] at h
  split at h
  · obtain ⟨w, hw, -⟩ := storing_eq_ok.mp h
    exact length_le_of_readUInt32 (by simpa using hw)
  · obtain ⟨w, hw, -⟩ := storing_eq_ok.mp h
    exact length_le_of_readUInt32 (by simpa using hw)
  · obtain ⟨c, hc, -⟩ := storing_eq_ok.mp h
    exact FieldReader.length_le_of_readNested _ (within_eq_ok.mp hc)
  · obtain ⟨c, hc, -⟩ := storing_eq_ok.mp h
    exact FieldReader.length_le_of_readNested _ (within_eq_ok.mp hc)
  · exact length_le_of_skipped h

/-- Reads the fields of a frame. -/
def frameReader : FieldReader Frame := .ofKeyed readFrameField length_le_of_readFrameField

/-- The frame that the bytes spell. -/
def decodeFrame (b : Bytes) : Except DecodeError Frame := frameReader.readAll ⟨0, 0, none⟩ b

end SignedControl.Wire
