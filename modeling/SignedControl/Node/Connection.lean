import SignedControl.Node.Authority
import SignedControl.Wire.Stream

/-!
# Connections to a node

A connection answers the frames of one byte stream, in order. It ends well when the peer closes the
stream, whatever is left undecoded, and badly at the first malformed frame or bad length; what was
answered before stays answered.
-/

namespace SignedControl.Node

/-- The greatest number of bytes that a connection reads at once. -/
def readSize : Nat := 4096

/-- What serving some frames gave. -/
structure Served where
  /-- The bytes written in reply. -/
  written : Bytes
  /-- The authority afterwards. -/
  authority : Authority
  /-- What is left to decode. -/
  decoder : Wire.Decoder
  /-- Why the connection has to end, if it has to. -/
  failure : Option Wire.CodecError

variable [SignatureScheme]

/-- Answers every complete frame that has been read. -/
def serveBuffered (nodeId : UInt32) (a : Authority) (d : Wire.Decoder) : Served :=
  match _h : d.next with
  | (.ok none, d') => ⟨[], a, d', none⟩
  | (.error e, d') => ⟨[], a, d', some e⟩
  | (.ok (some f), d') =>
    match a.handleFrame nodeId f with
    | (none, a') => serveBuffered nodeId a' d'
    | (some reply, a') =>
      match Wire.encode reply with
      | .error e => ⟨[], a', d', some e⟩
      | .ok bytes =>
        let served := serveBuffered nodeId a' d'
        { served with written := bytes ++ served.written }
termination_by d.buffer.length
decreasing_by all_goals exact Wire.Decoder.length_lt_of_next _h

/-- How a connection stands. -/
inductive Status where
  /-- It goes on. -/
  | running
  /-- The peer has closed it. -/
  | closed
  /-- It was broken off. -/
  | failed (cause : Wire.CodecError)
deriving DecidableEq

/-- One connection. -/
structure Connection where
  /-- What has been read and not been decoded. -/
  decoder : Wire.Decoder
  /-- How the connection stands. -/
  status : Status
deriving DecidableEq

namespace Connection

/-- A connection that has just been made. -/
def new : Connection := ⟨.empty, .running⟩

/-- Reads some bytes and answers the frames that they complete. Reading nothing means that the peer
has closed the stream. -/
def receive (nodeId : UInt32) (c : Connection) (a : Authority) (b : Bytes) :
    Bytes × Connection × Authority :=
  match c.status with
  | .running =>
    if b.isEmpty then ([], { c with status := .closed }, a)
    else
      let served := serveBuffered nodeId a (c.decoder.extend b)
      let status := match served.failure with
        | none => .running
        | some e => .failed e
      (served.written, ⟨served.decoder, status⟩, served.authority)
  | _ => ([], c, a)

/-- Reads one piece after another, and then the end of the stream. -/
def run (nodeId : UInt32) (c : Connection) (a : Authority) :
    List Bytes → Bytes × Connection × Authority
  | [] => c.receive nodeId a []
  | b :: pieces =>
    let (written, c, a) := c.receive nodeId a b
    let (written', c, a) := run nodeId c a pieces
    (written ++ written', c, a)

end Connection

end SignedControl.Node
