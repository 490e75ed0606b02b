import SignedControl.Text.Split

/-!
# Command lines

A command line is read from left to right. An option is two dashes and a name, with its value as
the next word or after an equals sign; only behind an equals sign may a value begin with a dash.
Two dashes alone end the options. A request for help or for the version counts if nothing before it
was wrong.
-/

namespace SignedControl.Tool

/-- One thing that a command line says. -/
inductive Argument where
  /-- An option and its value. -/
  | option (name value : String)
  /-- A word that is no option. -/
  | operand (value : String)
  /-- A request for help. -/
  | help
  /-- A request for the version. -/
  | version
  /-- Something that cannot be understood. -/
  | invalid
deriving DecidableEq, Repr

/-- Why a command line is no order to do something. -/
inductive Stop where
  /-- It is wrong. -/
  | usage
  /-- It asks for help. -/
  | help
  /-- It asks for the version. -/
  | version
deriving DecidableEq, Repr

/-- The exit status of a tool that has nothing to do, where a wrong command line gives `usage`. -/
def Stop.status (usage : Nat) : Stop → Nat
  | .usage => usage
  | _ => 0

/-- Whether a word looks like an option. -/
def isDashed (word : String) : Bool :=
  match word.toList with
  | '-' :: _ :: _ => true
  | _ => false

/-- What a word is by itself. -/
inductive WordKind where
  /-- It says something of its own. -/
  | complete (argument : Argument)
  /-- It is an option, and its value is the next word. -/
  | awaiting (name : String)
  /-- It ends the options. -/
  | terminator
deriving DecidableEq, Repr

/-- What a word is by itself, where the options have the names given. -/
def WordKind.ofWord (options : List String) (word : String) : WordKind :=
  match word.toList with
  | ['-', '-'] => .terminator
  | '-' :: '-' :: body =>
    match Text.cut? '=' body with
    | some (name, value) =>
      if options.contains (String.ofList name) then
        .complete (.option (String.ofList name) (String.ofList value))
      else .complete .invalid
    | none =>
      let name := String.ofList body
      if options.contains name then .awaiting name
      else if name = "help" then .complete .help
      else if name = "version" then .complete .version
      else .complete .invalid
  | '-' :: 'h' :: _ => .complete .help
  | '-' :: 'V' :: _ => .complete .version
  | '-' :: _ :: _ => .complete .invalid
  | _ => .complete (.operand word)

/-- What the words of a command line say, where the options have the names given. -/
def Argument.ofWords (options : List String) : List String → List Argument
  | [] => []
  | word :: words =>
    match WordKind.ofWord options word with
    | .complete argument => argument :: ofWords options words
    | .terminator => words.map .operand
    | .awaiting name =>
      match words with
      | [] => [.invalid]
      | value :: words =>
        if isDashed value then [.invalid] else .option name value :: ofWords options words

/-- Takes arguments one after another, up to one that is not taken. -/
def takeArguments {σ : Type} (take : σ → Argument → Option σ) : σ → List Argument → Except Stop σ
  | state, [] => .ok state
  | _, .help :: _ => .error .help
  | _, .version :: _ => .error .version
  | _, .invalid :: _ => .error .usage
  | state, argument :: arguments =>
    match take state argument with
    | some state => takeArguments take state arguments
    | none => .error .usage

/-- A setting that may be given once: what it is now, if the value can be read. -/
def once {α : Type} (held read : Option α) : Option (Option α) :=
  match held, read with
  | none, some a => some (some a)
  | _, _ => none

/-- The number that decimal digits spell. -/
def natOfDigits? (digits : List Char) : Option Nat :=
  if digits.isEmpty || !digits.all Char.isDigit then none
  else some (digits.foldl (fun n c => 10 * n + (c.toNat - '0'.toNat)) 0)

/-- A 32-bit number, perhaps with a sign. -/
def readUInt32? (word : String) : Option UInt32 :=
  let bounded (n : Nat) : Option UInt32 := if n < UInt32.size then some (UInt32.ofNat n) else none
  match word.toList with
  | '+' :: digits => (natOfDigits? digits).bind bounded
  | '-' :: digits => (natOfDigits? digits).bind fun n => if n = 0 then some 0 else none
  | digits => (natOfDigits? digits).bind bounded

/-- The name of a file, which cannot be empty. -/
def readPath? (word : String) : Option String := if word.isEmpty then none else some word

end SignedControl.Tool
