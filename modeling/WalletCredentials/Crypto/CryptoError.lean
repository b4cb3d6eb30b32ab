/-!
# Faults of keys and signatures
-/

namespace WalletCredentials

/-- What is wrong with key material. -/
inductive KeyFault
  /-- A public key that has not 32 bytes. -/
  | publicLength (length : Nat)
  /-- A private key that has not 32 bytes. -/
  | privateLength (length : Nat)
  /-- A public key that is no point of the curve. -/
  | noPoint
  /-- An empty secret. -/
  | emptySecret
  deriving DecidableEq, Repr

/-- The wording of a fault in key material. -/
def KeyFault.message : KeyFault → String
  | .publicLength n => "invalid key: public key must be 32 bytes, got " ++ toString n
  | .privateLength n => "invalid key: private key must be 32 bytes, got " ++ toString n
  | .noPoint => "invalid key: invalid public key: signature error: Cannot decompress Edwards point"
  | .emptySecret => "invalid key: HMAC secret must not be empty"

/-- What is wrong with a signature. -/
inductive SignatureFault
  /-- A signature that has not 64 bytes. -/
  | length (length : Nat)
  /-- A second half that is no scalar in lowest terms. -/
  | scalar
  /-- A signature that does not belong to the message and the key. -/
  | equation
  deriving DecidableEq, Repr

/-- The wording of a fault in a signature. -/
def SignatureFault.message : SignatureFault → String
  | .length n => "Ed25519 verification failed: signature must be 64 bytes, got " ++ toString n
  | .scalar =>
      "Ed25519 verification failed: signature error: Cannot use scalar with high-bit set"
  | .equation =>
      "Ed25519 verification failed: signature error: Verification equation was not satisfied"

/-- A fault of a key or of a signature. -/
inductive CryptoError
  | key (fault : KeyFault)
  | signature (fault : SignatureFault)
  deriving DecidableEq, Repr

/-- The wording of a fault. -/
def CryptoError.message : CryptoError → String
  | .key f => f.message
  | .signature f => f.message

end WalletCredentials
