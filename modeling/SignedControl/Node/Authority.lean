import SignedControl.Command.Signing
import SignedControl.Parameter.Config

/-!
# The node's authority over its parameters

A node carries out a command only if its signature holds under one of the trusted keys. Asking for
a session key makes the node issue the next one; a configuration change must be signed over the
session key issued last.

The session keys come from a source of random blocks, given as the sequence that it will yield.
-/

namespace SignedControl

/-- The number of bytes of a session key that a node issues. -/
def sessionKeyLength : Nat := 8

/-- The greatest number of keys that a node trusts. -/
def maxPublicKeys : Nat := 10

/-- What a node holds to decide about commands. -/
structure Authority where
  /-- The trusted keys. -/
  keys : List PublicKey
  /-- The session key issued last. -/
  sessionKey : Option (Block sessionKeyLength)
  /-- The parameters. -/
  parameters : ParameterTable
  /-- The source of session keys. -/
  source : Nat → Block sessionKeyLength
  /-- How many session keys have been issued. -/
  issued : Nat

namespace Authority

/-- An authority that has issued nothing. Keys beyond the greatest number are ignored. -/
def new (keys : List PublicKey) (parameters : ParameterTable)
    (source : Nat → Block sessionKeyLength) : Authority where
  keys := keys.take maxPublicKeys
  sessionKey := none
  parameters := parameters
  source := source
  issued := 0

variable [SignatureScheme]

/-- Whether a signature entitles to a command. -/
def permits (a : Authority) (sequence : UInt32) (operation : Operation)
    (payload signature : Bytes) : Bool :=
  signature.length == signatureLength &&
    a.keys.any fun key =>
      verifyCommand key sequence operation payload (a.sessionKey.map (·.bytes)) signature

/-- Carries out a permitted command. -/
def execute (a : Authority) (r : Request) (operation : Operation) (payload : Bytes) :
    Response × Authority :=
  match operation with
  | .getSessionKey =>
    let key := a.source a.issued
    (r.reply .accepted key.bytes, { a with sessionKey := some key, issued := a.issued + 1 })
  | .setConfig =>
    let (result, parameters) := a.parameters.applyConfig payload
    (r.reply result [], { a with parameters := parameters })

/-- Answers a request. -/
def handle (a : Authority) (r : Request) : Response × Authority :=
  if maxCommandData < r.data.length then (r.reply .denied [], a)
  else
    match r.split? with
    | none => (r.reply .denied [], a)
    | some (payload, signature) =>
      match Operation.ofCode? r.operation with
      | none => (r.reply .unsupported [], a)
      | some operation =>
        if a.permits r.sequence operation payload signature then a.execute r operation payload
        else (r.reply .denied [], a)

/-- Answers requests one after another. -/
def handleAll (a : Authority) : List Request → List Response × Authority
  | [] => ([], a)
  | r :: rest =>
    let (reply, a) := a.handle r
    let (replies, a) := a.handleAll rest
    (reply :: replies, a)

/-- Answers a frame. Frames for other nodes and frames that carry no request get no reply. -/
def handleFrame (nodeId : UInt32) (a : Authority) (f : Frame) : Option Frame × Authority :=
  if f.target ≠ nodeId then (none, a)
  else
    match f.body with
    | some (.request r) =>
      let (reply, a) := a.handle r
      (some (.ofResponse nodeId f.source reply), a)
    | _ => (none, a)

end Authority

end SignedControl
