import WalletCredentials.Crypto.Ed25519
import WalletCredentials.Encoding.Base64Url
import WalletCredentials.Json.Printer
import WalletCredentials.Record.Reader
import WalletCredentials.Toolkit.Error

/-!
# JSON Web Keys

A key of the kind `OKP` on the curve `Ed25519`: the public key and, in a private key,
the seed, both in base64url. What the texts stand for is looked at only when the key
is used.
-/

namespace WalletCredentials

/-- An Ed25519 key as it is exchanged. -/
structure Jwk where
  /-- The public key. -/
  x : String
  /-- The private seed. -/
  d : Option String
  deriving DecidableEq

namespace Jwk

/-- The fields of a key. -/
def fields : Fields :=
  .cons (.plain "kty") (.choice ["OKP"]) <|
  .cons (.plain "crv") (.choice ["Ed25519"]) <|
  .cons (.plain "x") .text <|
  .cons (.optional "d") (.optional .text) .nil

/-- The values of the fields of a key. -/
def values (key : Jwk) : fields.Values :=
  ((0 : Fin 1), (0 : Fin 1), key.x, key.d, ())

instance : Record Jwk where
  shape := .record "Jwk" fields
  toValue := values
  ofValue v := ⟨v.2.2.1, v.2.2.2.1⟩

/-- The text of a key, its fields in order. -/
def text (key : Jwk) : String := Json.text (.object (fields.members key.values))

/-- Reads the text of a key. -/
def read (text : String) : Except ToolkitError Jwk :=
  (Record.read text : Except ReadFault Jwk).mapError fun fault => .invalidKey fault.message

/-- Tells whether a key holds a seed. -/
def isPrivate (key : Jwk) : Bool := key.d.isSome

/-- The public half of a key. -/
def toPublic (key : Jwk) : Jwk := { key with d := none }

/-- A key as it is shown: the seed stays hidden. -/
def shown (key : Jwk) : String :=
  "Jwk \x7b kty: Okp, crv: Ed25519, x: " ++ Text.quoted key.x ++ ", d: " ++
    Text.quotedOption (key.d.map fun _ => "[REDACTED]") ++ " \x7d"

/-- The key of a public key. -/
def ofPublicKey (key : Ed25519.PublicKey) : Jwk := ⟨Base64Url.encode key.bytes, none⟩

/-- The private key of a key pair. -/
def ofKeyPair (pair : Ed25519.KeyPair) : Jwk :=
  ⟨Base64Url.encode pair.publicKey.bytes, some (Base64Url.encode pair.seed)⟩

/-- The bytes of a part of a key. -/
def partBytes (name text : String) : Except ToolkitError (List UInt8) :=
  match Base64Url.decode? text with
  | some bytes => .ok bytes
  | none => .error (.invalidKey (name ++ ": invalid Base64 encoding"))

/-- The public key that a key stands for. -/
def publicKey (key : Jwk) : Except ToolkitError Ed25519.PublicKey := do
  let bytes ← partBytes "x" key.x
  (Ed25519.PublicKey.ofBytes bytes).mapError fun fault => .invalidKey fault.message

/-- The key pair that a private key stands for. Its two parts have to belong together. -/
def keyPair (key : Jwk) : Except ToolkitError Ed25519.KeyPair :=
  match key.d with
  | none => .error (.invalidKey "missing private key")
  | some d => do
      let seed ← partBytes "d" d
      let pair ← (Ed25519.KeyPair.ofSeed seed).mapError fun fault => .invalidKey fault.message
      if pair.publicKey = (← key.publicKey) then return pair
      else throw (.invalidKey "public key does not match private key")

end Jwk

end WalletCredentials
