import SignedControl.Number.Decimal
import SignedControl.Number.Shortest
import SignedControl.Text.Blank
import SignedControl.Text.Quoted

/-!
# Parameters of a node

A node has a fixed set of parameters. Each has a kind, and a numeric one a range and a default.
`Parameter.parse` reads a value for a parameter from text: blanks around it do not count, numbers
are read in double precision and must be finite, within the range and, for the integer kinds, whole.
-/

namespace SignedControl

/-- The parameters, in the order of their names. -/
inductive Parameter where
  /-- The speed of the serial line. -/
  | baudRate
  /-- Whether broadcasting starts at power-up. -/
  | broadcastPowerUp
  /-- The rate of Bluetooth 4 broadcasts. -/
  | bluetooth4Rate
  /-- The rate of Bluetooth 5 broadcasts. -/
  | bluetooth5Rate
  /-- The node's number on the bus. -/
  | canNode
  /-- How far the node is locked against changes; zero is unlocked. -/
  | lockLevel
  /-- The identifier that is broadcast. -/
  | uasId
  /-- Whether the web server runs. -/
  | webserverEnable
  /-- The rate of Wi-Fi NAN broadcasts. -/
  | wifiNanRate
  /-- The Wi-Fi password. -/
  | wifiPassword
  /-- The Wi-Fi network name. -/
  | wifiSsid
deriving DecidableEq, Repr

/-- The range and the default of a numeric parameter. -/
structure NumericRange where
  /-- The least value. -/
  min : Nat
  /-- The greatest value. -/
  max : Nat
  /-- The value at first. -/
  default : Nat
deriving DecidableEq

/-- What values a parameter takes. -/
inductive ParameterKind where
  /-- Whole numbers of eight bits. -/
  | uint8 (range : NumericRange)
  /-- Whole numbers of 32 bits. -/
  | uint32 (range : NumericRange)
  /-- Single-precision numbers. -/
  | float (range : NumericRange)
  /-- Text. -/
  | text
deriving DecidableEq

/-- The greatest number of characters of a text value. -/
def maxTextLength : Nat := 20

/-- A parameter's value. -/
inductive ParameterValue where
  /-- A whole number of eight bits. -/
  | uint8 (n : UInt8)
  /-- A whole number of 32 bits. -/
  | uint32 (n : UInt32)
  /-- A single-precision number. -/
  | float (x : Number.Binary)
  /-- Text. -/
  | text (s : String)
deriving DecidableEq

/-- How a value is shown. -/
def ParameterValue.shown : ParameterValue → String
  | .uint8 n => toString n.toNat
  | .uint32 n => toString n.toNat
  | .float x => Number.binary32.text x
  | .text s => Text.quote s

namespace Parameter

/-- All parameters, in the order of their names. -/
def all : List Parameter :=
  [.baudRate, .broadcastPowerUp, .bluetooth4Rate, .bluetooth5Rate, .canNode, .lockLevel, .uasId,
    .webserverEnable, .wifiNanRate, .wifiPassword, .wifiSsid]

/-- A parameter's name. -/
def name : Parameter → String
  | .baudRate => "BAUDRATE"
  | .broadcastPowerUp => "BCAST_POWERUP"
  | .bluetooth4Rate => "BT4_RATE"
  | .bluetooth5Rate => "BT5_RATE"
  | .canNode => "CAN_NODE"
  | .lockLevel => "LOCK_LEVEL"
  | .uasId => "UAS_ID"
  | .webserverEnable => "WEBSERVER_ENABLE"
  | .wifiNanRate => "WIFI_NAN_RATE"
  | .wifiPassword => "WIFI_PASSWORD"
  | .wifiSsid => "WIFI_SSID"

/-- A parameter's kind. -/
def kind : Parameter → ParameterKind
  | .baudRate => .uint32 ⟨9600, 921600, 57600⟩
  | .broadcastPowerUp => .uint8 ⟨0, 1, 1⟩
  | .bluetooth4Rate => .float ⟨0, 5, 1⟩
  | .bluetooth5Rate => .float ⟨0, 5, 1⟩
  | .canNode => .uint8 ⟨0, 127, 0⟩
  | .lockLevel => .uint8 ⟨0, 2, 0⟩
  | .uasId => .text
  | .webserverEnable => .uint8 ⟨0, 1, 1⟩
  | .wifiNanRate => .float ⟨0, 5, 0⟩
  | .wifiPassword => .text
  | .wifiSsid => .text

/-- The parameter with a name, if there is one. -/
def ofName? (name : String) : Option Parameter := all.find? fun p => p.name = name

theorem mem_all (p : Parameter) : p ∈ all := by cases p <;> decide

end Parameter

/-- Why a value is not taken. -/
inductive ParameterError where
  /-- There is no parameter of that name. -/
  | unknown (name : String)
  /-- The text is not a value of the parameter's kind. -/
  | parse (parameter : Parameter) (text : String)
  /-- The number is outside the parameter's range. -/
  | outOfRange (parameter : Parameter) (number : Number.Binary) (range : NumericRange)
  /-- The text has too many characters. -/
  | tooLong (parameter : Parameter) (length : Nat)
deriving DecidableEq

/-- The wording of a parameter error. -/
def ParameterError.message : ParameterError → String
  | .unknown name => "Unknown parameter " ++ name
  | .parse parameter text => "Cannot parse " ++ Text.quote text ++ " for " ++ parameter.name
  | .outOfRange parameter number range =>
    parameter.name ++ "=" ++ Number.binary64.text number ++ " outside [" ++ toString range.min ++
      ", " ++ toString range.max ++ "]"
  | .tooLong parameter length =>
    parameter.name ++ " too long: " ++ toString length ++ " chars (max: " ++
      toString maxTextLength ++ ")"

namespace Parameter

/-- The single-precision form of a whole number. -/
def floatOfNat (n : Nat) : Number.Binary :=
  (Number.binary32.round? false n 1).getD (Number.binary32.zero false)

/-- The value that a parameter has at first. -/
def initial (p : Parameter) : ParameterValue :=
  match p.kind with
  | .uint8 range => .uint8 (UInt8.ofNat range.default)
  | .uint32 range => .uint32 (UInt32.ofNat range.default)
  | .float range => .float (floatOfNat range.default)
  | .text => .text ""

/-- Reads a number within a range from trimmed text. -/
def parseNumber (p : Parameter) (range : NumericRange) (text : List Char) :
    Except ParameterError Number.Binary :=
  match Number.Extended.ofChars? text with
  | some (.finite x) =>
    if x.below range.min || x.above range.max then .error (.outOfRange p x range) else .ok x
  | _ => .error (.parse p (String.ofList text))

/-- Reads a whole number within a range from trimmed text. -/
def parseWhole (p : Parameter) (range : NumericRange) (text : List Char) :
    Except ParameterError Nat :=
  match p.parseNumber range text with
  | .error e => .error e
  | .ok x => if x.isWhole then .ok x.whole else .error (.parse p (String.ofList text))

/-- Reads a value of a parameter. -/
def parse (p : Parameter) (value : String) : Except ParameterError ParameterValue :=
  let text := Text.trim value.toList
  match p.kind with
  | .text =>
    if maxTextLength < text.length then .error (.tooLong p text.length)
    else .ok (.text (String.ofList text))
  | .uint8 range => (p.parseWhole range text).map fun n => .uint8 (UInt8.ofNat n)
  | .uint32 range => (p.parseWhole range text).map fun n => .uint32 (UInt32.ofNat n)
  | .float range =>
    match p.parseNumber range text with
    | .error e => .error e
    | .ok x =>
      match Number.binary32.round? x.negative x.num x.den with
      | some y => .ok (.float y)
      | none => .error (.outOfRange p x range)

end Parameter

end SignedControl
