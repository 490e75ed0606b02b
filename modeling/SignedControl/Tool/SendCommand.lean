import SignedControl.Client.Basic
import SignedControl.Key
import SignedControl.Number.Decimal
import SignedControl.Number.Shortest
import SignedControl.Tool.Arguments
import SignedControl.Tool.FileSystem
import SignedControl.Tool.Network
import SignedControl.Tool.Report

/-!
# Sending a configuration change

The tool sends one configuration change to a node and exits with the node's answer.

* `prepare`: all that happens before the first request; the first thing wrong ends it.
* `exitStatus`: what the calling process sees of an answer.
-/

namespace SignedControl.Tool.SendCommand

/-- The settings of the tool. -/
structure Settings where
  /-- The address of the node. -/
  endpoint : String
  /-- The client's own node number. -/
  nodeId : UInt32
  /-- The number of the node that is addressed. -/
  target : UInt32
  /-- The file with the signing key. -/
  privateKey : String
  /-- How long a reply is waited for, in seconds. -/
  timeout : Number.Extended
  /-- The configuration change. -/
  change : String
deriving DecidableEq

/-- The settings that a command line has given so far. -/
structure Given where
  /-- The address of the node. -/
  endpoint : Option String
  /-- The client's own node number. -/
  nodeId : Option UInt32
  /-- The number of the node that is addressed. -/
  target : Option UInt32
  /-- The file with the signing key. -/
  privateKey : Option String
  /-- How long a reply is waited for, in seconds. -/
  timeout : Option Number.Extended
  /-- The configuration change. -/
  change : Option String

/-- Takes an argument. -/
def take (g : Given) : Argument → Option Given
  | .option "endpoint" value => (once g.endpoint (some value)).map fun v => { g with endpoint := v }
  | .option "node-id" value =>
    (once g.nodeId (readUInt32? value)).map fun v => { g with nodeId := v }
  | .option "target-node" value =>
    (once g.target (readUInt32? value)).map fun v => { g with target := v }
  | .option "private-key" value =>
    (once g.privateKey (readPath? value)).map fun v => { g with privateKey := v }
  | .option "timeout" value =>
    (once g.timeout (Number.Extended.ofChars? value.toList)).map fun v => { g with timeout := v }
  | .operand word => (once g.change (some word)).map fun v => { g with change := v }
  | _ => none

/-- A number of whole seconds. -/
def wholeSeconds (n : Nat) : Number.Extended :=
  .finite ((Number.binary64.round? false n 1).getD (Number.binary64.zero false))

/-- The settings that a command line gives. -/
def Settings.ofWords (words : List String) : Except Stop Settings := do
  let options := ["endpoint", "node-id", "target-node", "private-key", "timeout"]
  let g ← takeArguments take ⟨none, none, none, none, none, none⟩ (Argument.ofWords options words)
  match g.target, g.privateKey, g.change with
  | some target, some privateKey, some change =>
    return {
      endpoint := g.endpoint.getD "127.0.0.1:9090"
      nodeId := g.nodeId.getD 100
      target := target
      privateKey := privateKey
      timeout := g.timeout.getD (wholeSeconds 3)
      change := change }
  | _, _, _ => .error .usage

/-- How long a reply is waited for. -/
def Settings.timeoutDuration (s : Settings) : Except Failure Duration :=
  match Duration.ofSeconds s.timeout with
  | .error e => .error ⟨"invalid timeout " ++ s.timeout.text, [e.message]⟩
  | .ok d => if d = 0 then .error ⟨"timeout must be positive", []⟩ else .ok d

/-- Makes the client. Its first request will carry the sequence number `start`. -/
def prepare {m : Type → Type} [Monad m] (fs : FileSystem m) (network : Network) (s : Settings)
    (start : UInt32) : m (Except Failure Client) := do
  match s.timeoutDuration with
  | .error f => return .error f
  | .ok timeout =>
    match PrivateKey.ofFile (← fs.read s.privateKey) with
    | .error e => return .error ⟨"failed to load private key " ++ s.privateKey, e.messages⟩
    | .ok key =>
      match network.use s.endpoint with
      | .error e => return .error ⟨"Failed to connect to " ++ s.endpoint, [e.message]⟩
      | .ok () =>
        return (Client.new { target := s.target, timeout := timeout } key s.change start).mapError
          fun e => ⟨e.message, []⟩

/-- The exit status with which the tool reports an answer. Of a status only the low eight bits
reach the calling process. -/
def exitStatus (r : CommandResult) : UInt8 := UInt8.ofNat r.code.toNat

end SignedControl.Tool.SendCommand
