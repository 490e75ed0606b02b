import SignedControl.Bytes

/-!
# Signature schemes

Commands and firmware images are signed under 32-byte keys with 64-byte signatures. Everything but
the arithmetic of a scheme is written over `SignatureScheme`, so that what is proved of the
protocol holds for every scheme; the program runs with the Ed25519 instance.

`LawfulSignatureScheme` is what a statement assumes of the arithmetic where it needs anything: a
signature made with a private key verifies under the public key derived from it.
-/

namespace SignedControl

/-- The number of bytes of a key, private or public. -/
def keyLength : Nat := 32

/-- The number of bytes of a signature. -/
def signatureLength : Nat := 64

/-- The bytes of a signature. -/
abbrev Signature := Block signatureLength

/-- A private key: the seed that the scheme derives everything from. -/
structure PrivateKey where
  /-- The key's bytes. -/
  seed : Block keyLength
deriving DecidableEq

/-- A public key. Keys that arrive from outside are checked by `PublicKey.ofBytes`. -/
structure PublicKey where
  /-- The key's bytes. -/
  block : Block keyLength
deriving DecidableEq

/-- The operations of a signature scheme. -/
class SignatureScheme where
  /-- The public half of a private key. -/
  publicKey : PrivateKey → PublicKey
  /-- Whether the bytes are a public key at all. -/
  isPublicKey : Block keyLength → Bool
  /-- The signature of a message. -/
  sign : PrivateKey → Bytes → Signature
  /-- Whether a signature of a message holds under a public key. -/
  verify : PublicKey → Bytes → Signature → Bool

/-- What a private key signs, its public key verifies. -/
class LawfulSignatureScheme [SignatureScheme] : Prop where
  /-- A signature verifies under the public half of the key that made it. -/
  verify_sign (key : PrivateKey) (message : Bytes) :
    SignatureScheme.verify (SignatureScheme.publicKey key) message
      (SignatureScheme.sign key message) = true

variable [SignatureScheme]

/-- The public half of a private key. -/
def PrivateKey.publicKey (key : PrivateKey) : PublicKey := SignatureScheme.publicKey key

/-- The signature of a message under a private key. -/
def PrivateKey.sign (key : PrivateKey) (message : Bytes) : Signature :=
  SignatureScheme.sign key message

/-- Whether a byte string is a valid signature of a message. One of another length never is. -/
def PublicKey.verify (key : PublicKey) (message signature : Bytes) : Bool :=
  match Block.ofBytes? signature with
  | some s => SignatureScheme.verify key message s
  | none => false

theorem PublicKey.verify_sign [LawfulSignatureScheme] (key : PrivateKey) (message : Bytes) :
    key.publicKey.verify message (key.sign message).bytes = true := by
  rw [PublicKey.verify, Block.ofBytes?_eq_some_iff.mpr rfl]
  exact LawfulSignatureScheme.verify_sign key message

theorem PublicKey.length_of_verify {key : PublicKey} {message signature : Bytes}
    (h : key.verify message signature = true) : signature.length = signatureLength := by
  unfold PublicKey.verify at h
  split at h
  · next s hs => rw [Block.ofBytes?_eq_some_iff.mp hs]; exact s.length_eq
  · cases h

end SignedControl
