import SignedControl.Firmware.Update
import SignedControl.Node.Authority
import SignedControl.Tool.Network
import SignedControl.Tool.SignFirmware

/-!
# Starting a node

A node reads its trusted keys, shows its parameters, looks at the image that it might be updated
with, and then begins to listen. Only a key file that holds no key, and an address where one cannot
listen, keep it from that.
-/

namespace SignedControl.Tool.RunNode

open SignedControl.Firmware (Acceptance Descriptor)

/-- The settings of a node. -/
structure Settings where
  /-- The address to listen at. -/
  listen : String
  /-- The node's number. -/
  nodeId : UInt32
  /-- The files with the trusted keys. -/
  publicKeys : List String
  /-- The node's board. -/
  boardId : UInt32
  /-- The image to look at. -/
  otaImage : Option String
deriving DecidableEq, Repr

/-- The settings that a command line has given so far. -/
structure Given where
  /-- The address to listen at. -/
  listen : Option String
  /-- The node's number. -/
  nodeId : Option UInt32
  /-- The files with the trusted keys. -/
  publicKeys : List String
  /-- The node's board. -/
  boardId : Option UInt32
  /-- The image to look at. -/
  otaImage : Option String

/-- Takes an argument. -/
def take (g : Given) : Argument → Option Given
  | .option "listen" value => (once g.listen (some value)).map fun v => { g with listen := v }
  | .option "node-id" value =>
    (once g.nodeId (readUInt32? value)).map fun v => { g with nodeId := v }
  | .option "public-key" value =>
    (readPath? value).map fun path => { g with publicKeys := g.publicKeys ++ [path] }
  | .option "board-id" value =>
    (once g.boardId (readUInt32? value)).map fun v => { g with boardId := v }
  | .option "ota-image" value =>
    (once g.otaImage (readPath? value)).map fun v => { g with otaImage := v }
  | _ => none

/-- The settings that a command line gives. -/
def Settings.ofWords (words : List String) : Except Stop Settings := do
  let options := ["listen", "node-id", "public-key", "board-id", "ota-image"]
  let g ← takeArguments take ⟨none, none, [], none, none⟩ (Argument.ofWords options words)
  return {
    listen := g.listen.getD "0.0.0.0:9090"
    nodeId := g.nodeId.getD 10
    publicKeys := g.publicKeys
    boardId := g.boardId.getD 0
    otaImage := g.otaImage }

/-- A descriptor in full. -/
def shownDescriptor (d : Descriptor) : String :=
  "SignatureDescriptor \x7b board_id: " ++ toString d.boardId.toNat ++ ", image_length: " ++
    toString d.imageLength.toNat ++ ", signature: [" ++
    String.intercalate ", " (d.signature.bytes.map fun b => toString b.toNat) ++ "] \x7d"

/-- What is logged about an accepted image. -/
def acceptanceLog (a : Acceptance) : List LogLine :=
  let accepted (how : String) := info ("OTA image accepted: " ++ how)
  match a with
  | .verified d => [accepted ("Verified(" ++ shownDescriptor d ++ ")")]
  | .noKeys => [info "No public keys, accepting firmware", accepted "NoKeys"]
  | .unlocked fault =>
    [warn ("Unlocked, accepting firmware that failed checks: " ++ fault.message),
      accepted "Unlocked"]

variable [SignatureScheme]

/-- What is logged about an image file. -/
def imageLog (path : String) (content : Except FileError Bytes) (keys : List PublicKey)
    (boardId : UInt32) (lockLevel : UInt8) : List LogLine :=
  match content with
  | .error e => [warn (Failure.inline ⟨"failed to read " ++ path, [e.message]⟩)]
  | .ok image =>
    match Firmware.checkUpdate image keys boardId lockLevel with
    | .ok acceptance => acceptanceLog acceptance
    | .error e => [warn (Failure.inline ⟨"firmware " ++ path ++ " rejected", [e.message]⟩)]

omit [SignatureScheme] in
/-- What is logged about the parameters. -/
def parametersLog (t : ParameterTable) : List LogLine :=
  t.entries.map fun (p, v) => info ("  " ++ p.name ++ " = " ++ v.shown)

/-- Starts a node. It is ready once it may listen. -/
def start {m : Type → Type} [Monad m] (fs : FileSystem m) (network : Network) (s : Settings)
    (source : Nat → Block sessionKeyLength) : m (Report Authority) := do
  let tooMany :=
    if maxPublicKeys < s.publicKeys.length then
      [warn ("Only the first " ++ toString maxPublicKeys ++ " public keys are used")]
    else []
  match ← SignFirmware.readPublicKeys fs (s.publicKeys.take maxPublicKeys) with
  | .error f => return ⟨tooMany, .error f⟩
  | .ok keys =>
    let noKeys :=
      if keys.isEmpty then [warn "No public keys configured, every secure command will be denied"]
      else []
    let table := ParameterTable.initial
    let image ← match s.otaImage with
      | none => pure []
      | some path => do
        let content ← fs.read path
        pure (imageLog path content keys s.boardId table.lockLevel)
    let log := tooMany ++ noKeys ++ parametersLog table ++ image
    match network.use s.listen with
    | .error e => return ⟨log, .error ⟨"failed to bind " ++ s.listen, [e.message]⟩⟩
    | .ok () => return ⟨log, .ok (.new keys table source)⟩

end SignedControl.Tool.RunNode
