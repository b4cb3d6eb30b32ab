import WalletCredentials.Crypto.CryptoError
import WalletCredentials.Crypto.Edwards
import WalletCredentials.Crypto.Sha2
import WalletCredentials.Encoding.Hex

/-!
# Ed25519 signatures

Keys, signatures, signing and verification. A signature is accepted when the point
that it should hold, computed from its second half, has the bytes of its first
half. Keys of small order are not singled out.
-/

namespace WalletCredentials.Ed25519

/-- A public key: the bytes of a point, not checked to be one. -/
structure PublicKey where
  bytes : List UInt8
  length_eq : bytes.length = 32
  deriving DecidableEq

/-- A signature: the bytes of a point and of a scalar, checked when it is verified. -/
structure Signature where
  bytes : List UInt8
  length_eq : bytes.length = 64
  deriving DecidableEq

/-- A key pair, given by its private seed. -/
structure KeyPair where
  seed : List UInt8
  length_eq : seed.length = 32
  deriving DecidableEq

/-- The public key of bytes. -/
def PublicKey.ofBytes (bytes : List UInt8) : Except KeyFault PublicKey :=
  if h : bytes.length = 32 then .ok ⟨bytes, h⟩ else .error (.publicLength bytes.length)

theorem PublicKey.ofBytes_eq_ok_iff {bytes : List UInt8} {key : PublicKey} :
    PublicKey.ofBytes bytes = .ok key ↔ key.bytes = bytes := by
  obtain ⟨bytes', hlength⟩ := key
  grind [PublicKey.ofBytes]

/-- The signature of bytes. -/
def Signature.ofBytes (bytes : List UInt8) : Except SignatureFault Signature :=
  if h : bytes.length = 64 then .ok ⟨bytes, h⟩ else .error (.length bytes.length)

theorem Signature.ofBytes_eq_ok_iff {bytes : List UInt8} {signature : Signature} :
    Signature.ofBytes bytes = .ok signature ↔ signature.bytes = bytes := by
  obtain ⟨bytes', hlength⟩ := signature
  grind [Signature.ofBytes]

/-- The key pair of a seed. -/
def KeyPair.ofSeed (seed : List UInt8) : Except KeyFault KeyPair :=
  if h : seed.length = 32 then .ok ⟨seed, h⟩ else .error (.privateLength seed.length)

theorem KeyPair.ofSeed_eq_ok_iff {seed : List UInt8} {pair : KeyPair} :
    KeyPair.ofSeed seed = .ok pair ↔ pair.seed = seed := by
  obtain ⟨seed', hlength⟩ := pair
  grind [KeyPair.ofSeed]

/-- The point of a result that may be none. -/
def orNoPoint : Option Edwards.Point → Except KeyFault Edwards.Point
  | some p => .ok p
  | none => .error .noPoint

/-- The point of a public key. -/
def PublicKey.point (key : PublicKey) : Except KeyFault Edwards.Point :=
  orNoPoint (Edwards.Point.decode? key.bytes)

/-- The scalar of a digest. -/
def scalar (bytes : List UInt8) : Nat := Bytes.toNatLittle bytes % Edwards.order

/-- The digest of a seed: the secret scalar in its first half, the nonce key in the other. -/
def KeyPair.expanded (pair : KeyPair) : List UInt8 := Sha2.digest Sha2.sha512 pair.seed

/-- The secret scalar: the lowest three bits cleared, the highest bit the 255th. -/
def KeyPair.secret (pair : KeyPair) : Nat :=
  let n := Bytes.toNatLittle (pair.expanded.take 32)
  n % Nat.pow 2 254 / 8 * 8 + Nat.pow 2 254

/-- The public key of a key pair. -/
def KeyPair.publicKey (pair : KeyPair) : PublicKey :=
  ⟨(Edwards.Point.base.times pair.secret).encode, Edwards.Point.length_encode _⟩

/-- The scalar that binds a signature to its key and message. -/
def challenge (point key message : List UInt8) : Nat :=
  scalar (Sha2.digest Sha2.sha512 (point ++ key ++ message))

/-- The signature of a message. -/
def KeyPair.sign (pair : KeyPair) (message : List UInt8) : Signature :=
  let nonce := scalar (Sha2.digest Sha2.sha512 (pair.expanded.drop 32 ++ message))
  let point := (Edwards.Point.base.times nonce).encode
  let k := challenge point pair.publicKey.bytes message
  ⟨point ++ Bytes.ofNatLittle 32 ((nonce + k * pair.secret) % Edwards.order), by
    simp [point, Edwards.Point.length_encode]⟩

/-- Checks that a signature belongs to a message and a key that has a point. -/
def verifyAt (point : Edwards.Point) (message : List UInt8) (signature : Signature)
    (key : PublicKey) : Except CryptoError Unit :=
  let first := signature.bytes.take 32
  let second := Bytes.toNatLittle (signature.bytes.drop 32)
  if Edwards.order ≤ second then .error (.signature .scalar)
  else
    let k := challenge first key.bytes message
    let expected := (Edwards.Point.base.times second).sum (point.times k).neg
    if expected.encode = first then .ok () else .error (.signature .equation)

/-- Checks that a signature belongs to a message and a key. -/
def verify (message : List UInt8) (signature : Signature) (key : PublicKey) :
    Except CryptoError Unit := do
  let point ← key.point.mapError .key
  verifyAt point message signature key

/-- The short form in which keys and signatures are shown: their first four bytes. -/
def shown (kind : String) (bytes : List UInt8) : String :=
  kind ++ "(" ++ Hex.encode (bytes.take 4) ++ "...)"

/-- A public key as it is shown. -/
def PublicKey.shown (key : PublicKey) : String := Ed25519.shown "Ed25519PublicKey" key.bytes

/-- A signature as it is shown. -/
def Signature.shown (signature : Signature) : String :=
  Ed25519.shown "Ed25519Signature" signature.bytes

/-- A key pair as it is shown: the seed stays hidden. -/
def KeyPair.shown (_ : KeyPair) : String := "Ed25519KeyPair(<private>)"

end WalletCredentials.Ed25519
