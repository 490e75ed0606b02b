import SignedControl.Firmware.Update
import SignedControl.Key
import SignedControl.Tool.Arguments
import SignedControl.Tool.FileSystem
import SignedControl.Tool.Report

/-!
# Signing and checking image files

The tool has two commands. `sign` puts a descriptor on an image file, in place; `verify` checks an
image file with the keys of some key files, and perhaps the board that it is for.

* `signFile`, `verifyFile`: the two commands.
* `run`: the tool, from its command line to its exit status.
-/

namespace SignedControl.Tool.SignFirmware

open SignedControl.Firmware (Descriptor)

/-- What the tool is to do. -/
inductive Command where
  /-- Sign an image file. -/
  | sign (image key : String) (boardId : UInt32)
  /-- Check an image file. -/
  | verify (image : String) (keys : List String) (boardId : Option UInt32)
deriving DecidableEq, Repr

/-! ## The command line -/

/-- The operands of `sign` so far. -/
inductive SignOperands where
  /-- None. -/
  | none
  /-- The image. -/
  | image (path : String)
  /-- The image and the key. -/
  | imageAndKey (path key : String)
  /-- All of them. -/
  | all (path key : String) (boardId : UInt32)

/-- Takes an argument of `sign`. -/
def takeSign : SignOperands → Argument → Option SignOperands
  | .none, .operand word => (readPath? word).map .image
  | .image path, .operand word => (readPath? word).map (.imageAndKey path)
  | .imageAndKey path key, .operand word => (readUInt32? word).map (.all path key)
  | _, _ => .none

/-- The arguments of `verify` so far. -/
structure VerifyArguments where
  /-- The image. -/
  image : Option String
  /-- The keys. -/
  keys : List String
  /-- The board. -/
  boardId : Option UInt32

/-- Takes an argument of `verify`. -/
def takeVerify (a : VerifyArguments) : Argument → Option VerifyArguments
  | .operand word =>
    match a.image with
    | none => (readPath? word).map fun path => { a with image := some path }
    | some _ => (readPath? word).map fun path => { a with keys := a.keys ++ [path] }
  | .option _ value => (once a.boardId (readUInt32? value)).map fun b => { a with boardId := b }
  | _ => none

/-- Within a command there is no version to ask for. -/
def withinCommand {α : Type} : Except Stop α → Except Stop α
  | .error .version => .error .usage
  | result => result

/-- What a command line orders. -/
def Command.ofWords : List String → Except Stop Command
  | "sign" :: words =>
    withinCommand do
      match ← takeArguments takeSign .none (Argument.ofWords [] words) with
      | .all path key boardId => .ok (.sign path key boardId)
      | _ => .error .usage
  | "verify" :: words =>
    withinCommand do
      match ← takeArguments takeVerify ⟨none, [], none⟩ (Argument.ofWords ["board-id"] words) with
      | ⟨some image, key :: keys, boardId⟩ => .ok (.verify image (key :: keys) boardId)
      | _ => .error .usage
  | "help" :: words =>
    if words.length ≤ 1 ∧ ∀ word ∈ words, word ∈ ["sign", "verify", "help"] then .error .help
    else .error .usage
  | words =>
    match Argument.ofWords [] words with
    | .help :: _ => .error .help
    | .version :: _ => .error .version
    | _ => .error .usage

/-! ## The commands -/

variable [SignatureScheme] {m : Type → Type} [Monad m]

/-- The failure to replace an image file. -/
def replaceFailure (image : String) : ReplaceError → Failure
  | .create e => ⟨"failed to create temp file in " ++ parentOf image, [e.message]⟩
  | .write temporary e => ⟨"failed to write " ++ temporary, [e.message]⟩
  | .rename e => ⟨"failed to replace " ++ image, [e.message]⟩

/-- Signs an image file in place, and gives its new length. -/
def signFile (fs : FileSystem m) (image key : String) (boardId : UInt32) : m (Report Nat) := do
  match PrivateKey.ofFile (← fs.read key) with
  | .error e => return ⟨[], .error ⟨"failed to load private key " ++ key, e.messages⟩⟩
  | .ok privateKey =>
    match ← fs.read image with
    | .error e => return ⟨[], .error ⟨"failed to read " ++ image, [e.message]⟩⟩
    | .ok content =>
      match Firmware.sign content privateKey boardId with
      | .error e => return ⟨[], .error ⟨e.message, []⟩⟩
      | .ok signed =>
        let applying := info "Applying signature"
        match ← fs.replace image signed with
        | .error e => return ⟨[applying], .error (replaceFailure image e)⟩
        | .ok () => return ⟨[applying, info ("Wrote " ++ image)], .ok signed.length⟩

/-- Reads the public keys in some files, up to the first that holds none. -/
def readPublicKeys (fs : FileSystem m) : List String → m (Except Failure (List PublicKey))
  | [] => return .ok []
  | path :: paths => do
    match PublicKey.ofFile (← fs.read path) with
    | .error e => return .error ⟨"failed to load public key " ++ path, e.messages⟩
    | .ok key => return (← readPublicKeys fs paths).map (key :: ·)

/-- Checks the content of an image file with some keys, and the board if one is given. -/
def verifyImage (content : Bytes) (keys : List PublicKey) (boardId : Option UInt32) :
    Except Firmware.Error Descriptor := do
  let d ← Firmware.verifyWithKeys content keys
  match boardId with
  | some expected => Firmware.checkBoard d expected
  | none => .ok ()
  return d

/-- Checks an image file. -/
def verifyFile (fs : FileSystem m) (image : String) (keys : List String)
    (boardId : Option UInt32) : m (Except Failure Descriptor) := do
  match ← readPublicKeys fs keys with
  | .error f => return .error f
  | .ok keys =>
    match ← fs.read image with
    | .error e => return .error ⟨"failed to read " ++ image, [e.message]⟩
    | .ok content =>
      return (verifyImage content keys boardId).mapError fun e => ⟨e.message, []⟩

/-- What a command reports in the end, line by line. -/
def Command.report (fs : FileSystem m) : Command → m (Report LogLine)
  | .sign image key boardId => do
    let r ← signFile fs image key boardId
    return ⟨r.log, r.result.map fun length =>
      info ("Signed image is " ++ toString length ++ " bytes (board " ++
        toString boardId.toNat ++ ")")⟩
  | .verify image keys boardId => do
    let r ← verifyFile fs image keys boardId
    return ⟨[], r.map fun d =>
      info ("Signature OK: board " ++ toString d.boardId.toNat ++ " length " ++
        toString d.imageLength.toNat ++ " (+" ++ toString Firmware.descriptorLength ++
        " descriptor)")⟩

/-- Carries out a command: its exit status and its log. -/
def Command.run (fs : FileSystem m) (c : Command) : m (Nat × List LogLine) := do
  let r ← c.report fs
  match r.result with
  | .ok line => return (0, r.log ++ [line])
  | .error f => return (1, r.log ++ [⟨.error, f.inline⟩])

end SignedControl.Tool.SignFirmware
