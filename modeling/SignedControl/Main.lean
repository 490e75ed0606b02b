import SignedControl.Crypto.Ed25519
import SignedControl.Tool.RunNode
import SignedControl.Tool.SendCommand
import SignedControl.Tool.SignFirmware

/-!
# The program

The first word of the command line chooses the tool: `sign-fw`, `remoteid-node` or
`secure-command`. The tools decide everything; here they are given the machine's files, and what
they report is printed. The program has no network: every address is out of reach for it.
-/

namespace SignedControl.Program

open SignedControl.Tool

/-- The number of an operating system's error. It comes with either sign. -/
def errorNumber (code : UInt32) : UInt32 := min code (0 - code)

/-- A file error, as the tools know it. -/
def fileError : IO.Error → FileError
  | .noFileOrDirectory .. => .notFound
  | .inappropriateType _ code details =>
    if errorNumber code = 21 then .isDirectory
    else if errorNumber code = 20 then .notDirectory
    else .other details
  | .invalidArgument _ code details =>
    if errorNumber code = 36 then .nameTooLong else .other details
  | e => .other (toString e)

/-- Carries out a step on files. -/
def attempt {α : Type} (step : IO α) : IO (Except FileError α) := do
  try
    return .ok (← step)
  catch e =>
    return .error (fileError e)

/-- The files of the machine. -/
def files : FileSystem IO where
  read path := attempt do return (← IO.FS.readBinFile path).toList
  create beside := attempt do
    let name := parentOf beside ++ "/.tmp" ++ toString (← IO.rand 100000 999999)
    let _ ← IO.FS.Handle.mk name .writeNew
    return name
  write temporary content := attempt (IO.FS.writeBinFile temporary ⟨content.toArray⟩)
  rename temporary path := attempt (IO.FS.rename temporary path)
  remove temporary := do
    let _ ← attempt (IO.FS.removeFile temporary)

/-- What the tools are told about the network. -/
def network : Network := .unreachable

/-- Session keys that follow from a secret. -/
def sessionKeys (secret : Bytes) (n : Nat) : Block sessionKeyLength :=
  (Block.ofBytes? ((Sha512.digest (secret ++ Bytes.ofNatLE 8 n)).take sessionKeyLength)).getD
    (.fill _ 0)

/-- Prints a log. -/
def printLog (log : List LogLine) : IO Unit := do
  for line in log do
    IO.println line.shown

/-- How each tool is used. -/
def usage : String → String
  | "sign-fw" =>
    "usage: sign-fw sign OTA_FILE PRIVATE_KEYFILE BOARD_ID\n" ++
      "       sign-fw verify OTA_FILE PUBLIC_KEYFILE... [--board-id N]"
  | "remoteid-node" =>
    "usage: remoteid-node [--listen ADDRESS] [--node-id N] [--public-key FILE]... " ++
      "[--board-id N] [--ota-image FILE]"
  | "secure-command" =>
    "usage: secure-command [--endpoint ADDRESS] [--node-id N] --target-node N " ++
      "--private-key FILE [--timeout SECONDS] NAME=VALUE"
  | _ => "usage: (sign-fw | remoteid-node | secure-command) ..."

/-- Answers a command line that orders nothing. -/
def stopped (tool : String) (status : Nat) : Stop → IO Nat
  | .usage => do
    IO.eprintln (usage tool)
    return status
  | .help => do
    IO.println (usage tool)
    IO.println signatureSchemeNote
    return 0
  | .version => do
    IO.println (tool ++ " 0.1.0")
    return 0

/-- Reports a failure. -/
def failed (f : Failure) : IO Nat := do
  IO.eprintln f.paragraph
  return 1

/-- What comes after a connection that cannot be had. -/
def withoutNetwork : IO Nat := failed ⟨"this program cannot use the network", []⟩

/-- Runs the tool that the first word names, and gives its exit status. -/
def run : List String → IO Nat
  | "sign-fw" :: words => do
    match SignFirmware.Command.ofWords words with
    | .error stop => stopped "sign-fw" (stop.status 2) stop
    | .ok command =>
      let (status, log) ← command.run files
      printLog log
      return status
  | "remoteid-node" :: words => do
    match RunNode.Settings.ofWords words with
    | .error stop => stopped "remoteid-node" (stop.status 2) stop
    | .ok settings =>
      let secret := (← IO.getRandomBytes 32).toList
      let report ← RunNode.start files network settings (sessionKeys secret)
      printLog report.log
      match report.result with
      | .error f => failed f
      | .ok _ => withoutNetwork
  | "secure-command" :: words => do
    match SendCommand.Settings.ofWords words with
    | .error stop => stopped "secure-command" (stop.status 1) stop
    | .ok settings =>
      let start ← IO.rand 0 (UInt32.size - 1)
      match ← SendCommand.prepare files network settings (UInt32.ofNat start) with
      | .error f => failed f
      | .ok _ => withoutNetwork
  | _ => do
    IO.eprintln (usage "")
    return 2

end SignedControl.Program

/-- Runs the program. -/
def main (words : List String) : IO UInt32 := do
  return UInt32.ofNat (← SignedControl.Program.run words)
