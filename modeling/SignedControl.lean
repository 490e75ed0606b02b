import SignedControl.Base64
import SignedControl.Bytes
import SignedControl.Client.Basic
import SignedControl.Client.Delivery
import SignedControl.Client.Handshake
import SignedControl.Client.Pending
import SignedControl.Command.Message
import SignedControl.Command.Operation
import SignedControl.Command.Signing
import SignedControl.Crypto.Ed25519
import SignedControl.Crypto.Edwards
import SignedControl.Crypto.Sha512
import SignedControl.FileError
import SignedControl.Firmware.Image
import SignedControl.Firmware.Update
import SignedControl.Key
import SignedControl.Link.Channel
import SignedControl.Link.Pipe
import SignedControl.Link.Queue
import SignedControl.Link.Task
import SignedControl.Loopback
import SignedControl.Main
import SignedControl.Node.Authority
import SignedControl.Node.Connection
import SignedControl.Number.Binary
import SignedControl.Number.Decimal
import SignedControl.Number.Shortest
import SignedControl.Parameter.Basic
import SignedControl.Parameter.Config
import SignedControl.Parameter.Table
import SignedControl.Sequence
import SignedControl.Signature
import SignedControl.Text.Blank
import SignedControl.Text.Combining
import SignedControl.Text.Quoted
import SignedControl.Text.Split
import SignedControl.Text.Terminal
import SignedControl.Text.Unprintable
import SignedControl.Text.Utf8
import SignedControl.Time
import SignedControl.Tool.Arguments
import SignedControl.Tool.FileSystem
import SignedControl.Tool.Network
import SignedControl.Tool.Report
import SignedControl.Tool.RunNode
import SignedControl.Tool.SendCommand
import SignedControl.Tool.SignFirmware
import SignedControl.Wire.Field
import SignedControl.Wire.FrameFormat
import SignedControl.Wire.Reader
import SignedControl.Wire.Stream
import SignedControl.Wire.Varint
import SignedControl.Proofs.Node.Authorization
import SignedControl.Proofs.Node.Replay
import SignedControl.Proofs.Client.Tick
import SignedControl.Proofs.Dialogue.Basic
import SignedControl.Proofs.Dialogue.Report
import SignedControl.Proofs.Dialogue.Line
import SignedControl.Proofs.Dialogue.KeyAgreement
import SignedControl.Proofs.Command.Binding
import SignedControl.Proofs.Node.Reuse
import SignedControl.Proofs.Wire.RoundTrip
import SignedControl.Proofs.Client.Order
import SignedControl.Proofs.Node.Exchange
import SignedControl.Proofs.Wire.Pieces
import SignedControl.Proofs.Wire.Shortest
import SignedControl.Proofs.Node.Service
import SignedControl.Proofs.Link.Circuit
import SignedControl.Proofs.Link.Carries
import SignedControl.Proofs.Link.Transparency
import SignedControl.Proofs.Firmware.Format
import SignedControl.Proofs.Firmware.Acceptance
import SignedControl.Proofs.Link.Accounting
import SignedControl.Proofs.Tool.Agreement
import SignedControl.Proofs.Number.Rounding
import SignedControl.Proofs.Parameter.Value
import SignedControl.Proofs.Parameter.Invariant
import SignedControl.Proofs.Loopback.Run
import SignedControl.Proofs.Loopback.Losses
import SignedControl.Proofs.Loopback.GoesThrough
import SignedControl.Proofs.Client.Stale
import SignedControl.Proofs.Node.Precedence
import SignedControl.Proofs.Text.Utf8
import SignedControl.Proofs.Parameter.Entries
import SignedControl.Proofs.Parameter.Resend
import SignedControl.Proofs.Tool.Files
import SignedControl.Proofs.Tool.Signing
import SignedControl.Proofs.Client.OneInFlight
import SignedControl.Proofs.Client.KeyProgress
import SignedControl.Proofs.Client.Departures
import SignedControl.Proofs.Client.Refusal
import SignedControl.Proofs.Client.Cadence
import SignedControl.Proofs.Client.Outstanding
import SignedControl.Proofs.Firmware.Board
import SignedControl.Proofs.Firmware.CommandSignature
import SignedControl.Proofs.KeyText
import SignedControl.Proofs.Number.Numeral
import SignedControl.Proofs.Parameter.Whole
import SignedControl.Proofs.Link.Writable
import SignedControl.Proofs.Link.Backlog
import SignedControl.Proofs.Tool.ExitStatus
