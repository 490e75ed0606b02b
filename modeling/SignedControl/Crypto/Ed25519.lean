import SignedControl.Crypto.Edwards
import SignedControl.Crypto.Sha512
import SignedControl.Signature

/-!
# Ed25519

The signature scheme of RFC 8032 over SHA-512. Verification recomputes the point of the signature
and compares its bytes: the scalar must be below the order of the base point, no cofactor is
multiplied in, and points of small order are not singled out.
-/

namespace SignedControl.Ed25519

open Edwards

/-- The secret scalar of a seed: the first half of its hash, with the three lowest bits and the
highest cleared and the second highest set. -/
def secretScalar (hash : Bytes) : Nat :=
  let n := Bytes.toNatLE (hash.take 32)
  Nat.pow 2 254 + n % Nat.pow 2 254 / 8 * 8

/-- The part of a seed's hash from which the one-time scalars of signatures are drawn. -/
def nonceKey (hash : Bytes) : Bytes := hash.drop 32

/-- A hash as a scalar. -/
def hashScalar (message : Bytes) : Nat := Bytes.toNatLE (Sha512.digest message) % order

/-- The block of a point's bytes. -/
def pointBlock (p : Point) : Block keyLength := ⟨p.bytes, p.length_bytes⟩

/-- The public half of a private key. -/
def publicKey (key : PrivateKey) : PublicKey :=
  ⟨pointBlock (Point.base.smul (secretScalar (Sha512.digest key.seed.bytes)))⟩

/-- The signature of a message. -/
def sign (key : PrivateKey) (message : Bytes) : Signature :=
  let hash := Sha512.digest key.seed.bytes
  let secret := secretScalar hash
  let nonce := hashScalar (nonceKey hash ++ message)
  let r := (Point.base.smul nonce).bytes
  let k := hashScalar (r ++ (Point.base.smul secret).bytes ++ message)
  ⟨r ++ Bytes.ofNatLE 32 ((nonce + k * secret) % order), by simp [r, signatureLength]⟩

/-- Whether a signature of a message holds under a public key. -/
def verify (key : PublicKey) (message : Bytes) (signature : Signature) : Bool :=
  let r := signature.bytes.take 32
  let s := Bytes.toNatLE (signature.bytes.drop 32)
  match Point.ofBytes? key.block.bytes with
  | none => false
  | some a =>
    if order ≤ s then false
    else
      let k := hashScalar (r ++ key.block.bytes ++ message)
      ((Point.base.smul s).add (a.neg.smul k)).bytes == r

/-- The scheme that the program runs with. -/
instance scheme : SignatureScheme where
  publicKey := publicKey
  isPublicKey b := (Point.ofBytes? b.bytes).isSome
  sign := sign
  verify := verify

end SignedControl.Ed25519
