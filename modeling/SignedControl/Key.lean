import SignedControl.Base64
import SignedControl.FileError
import SignedControl.Signature
import SignedControl.Text.Blank
import SignedControl.Text.Utf8

/-!
# Key files

A key file holds one key as text: a word for its kind, a colon, and the base64 form of its 32
bytes. Blanks around the text are ignored; everything else must match to the letter.
-/

namespace SignedControl

/-- What users should know about the keys. -/
def signatureSchemeNote : String :=
  "Signatures are Ed25519 (SHA-512). Key files use the PRIVATE_KEYV1/PUBLIC_KEYV1 text format, " ++
    "but nodes that check BLAKE2b EdDSA (Monocypher) signatures will reject commands and images " ++
    "signed by this tool, even with a valid key file."

/-- Which half of a key pair a key file holds. -/
inductive KeyKind where
  /-- The signing half. -/
  | privateKey
  /-- The verifying half. -/
  | publicKey
deriving DecidableEq, Repr

namespace KeyKind

/-- The name of a kind. -/
def name : KeyKind → String
  | .privateKey => "PRIVATE"
  | .publicKey => "PUBLIC"

/-- What the text of a key of this kind begins with. -/
def header : KeyKind → String
  | .privateKey => "PRIVATE_KEYV1:"
  | .publicKey => "PUBLIC_KEYV1:"

end KeyKind

/-- Why bytes or text are not a key. -/
inductive KeyError where
  /-- The text does not begin as texts of its kind do. -/
  | header (kind : KeyKind)
  /-- The text after the header is not base64. -/
  | base64 (cause : Base64.Error)
  /-- The bytes name no public key. -/
  | notAPoint
  /-- The number of bytes is wrong. -/
  | length (actual : Nat)
  /-- The key file could not be read. -/
  | file (cause : FileError)
deriving DecidableEq, Repr

namespace KeyError

/-- The wording of a key error. -/
def message : KeyError → String
  | .header kind => "Invalid key format: expected " ++ kind.header ++ " prefix"
  | .base64 cause => "Invalid key format: bad base64: " ++ cause.message
  | .notAPoint =>
    "Invalid key format: invalid public key: signature error: Cannot decompress Edwards point"
  | .length actual =>
    "Bad key length " ++ toString actual ++ " (expected " ++ toString keyLength ++ ")"
  | .file cause => "Failed to read key file: " ++ cause.message

/-- The wording of a key error, followed by that of its cause if it has one of its own. -/
def messages : KeyError → List String
  | .file cause => [(KeyError.file cause).message, cause.message]
  | e => [e.message]

end KeyError

/-- What follows the beginning of a list, if the list begins so. -/
def dropHeader? : (header s : List Char) → Option (List Char)
  | [], s => some s
  | _ :: _, [] => none
  | h :: header, c :: s => if h = c then dropHeader? header s else none

namespace KeyKind

/-- The text of a key. -/
def encode (kind : KeyKind) (key : Block keyLength) : String :=
  kind.header ++ String.ofList ((Base64.encode key.bytes).map fun b => Char.ofNat b.toNat)

/-- The key that a text holds. -/
def decode (kind : KeyKind) (text : String) : Except KeyError (Block keyLength) :=
  match dropHeader? kind.header.toList (Text.trim text.toList) with
  | none => .error (.header kind)
  | some body =>
    match Base64.decode (Text.Utf8.encode body) with
    | .error e => .error (.base64 e)
    | .ok bytes =>
      match Block.ofBytes? bytes with
      | some key => .ok key
      | none => .error (.length bytes.length)

end KeyKind

namespace PrivateKey

/-- The private key that a text holds. -/
def ofText (text : String) : Except KeyError PrivateKey :=
  (KeyKind.privateKey.decode text).map PrivateKey.mk

/-- The text of a private key. -/
def toText (key : PrivateKey) : String := KeyKind.privateKey.encode key.seed

/-- How a private key is shown: never by its bytes. -/
def shown (_ : PrivateKey) : String := "PrivateKey(..)"

end PrivateKey

namespace PublicKey

variable [SignatureScheme]

/-- The public key with these bytes, if they are one. -/
def ofBytes (bytes : Block keyLength) : Except KeyError PublicKey :=
  if SignatureScheme.isPublicKey bytes then .ok ⟨bytes⟩ else .error .notAPoint

/-- The public key that a text holds. -/
def ofText (text : String) : Except KeyError PublicKey :=
  KeyKind.publicKey.decode text >>= ofBytes

omit [SignatureScheme] in
/-- The text of a public key. -/
def toText (key : PublicKey) : String := KeyKind.publicKey.encode key.block

omit [SignatureScheme] in
/-- How a public key is shown. -/
def shown (key : PublicKey) : String := "PublicKey(" ++ key.toText ++ ")"

end PublicKey

/-- The text of a file's content. -/
def textOfFile (content : Except FileError Bytes) : Except FileError String :=
  match content with
  | .error e => .error e
  | .ok bytes =>
    match bytes.toString? with
    | some text => .ok text
    | none => .error .notText

/-- The private key in a file, given what reading the file gave. -/
def PrivateKey.ofFile (content : Except FileError Bytes) : Except KeyError PrivateKey :=
  match textOfFile content with
  | .error e => .error (.file e)
  | .ok text => PrivateKey.ofText text

/-- The public key in a file, given what reading the file gave. -/
def PublicKey.ofFile [SignatureScheme] (content : Except FileError Bytes) :
    Except KeyError PublicKey :=
  match textOfFile content with
  | .error e => .error (.file e)
  | .ok text => PublicKey.ofText text

end SignedControl
