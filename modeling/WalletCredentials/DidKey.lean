import WalletCredentials.Encoding.Base58
import WalletCredentials.Jwk
import WalletCredentials.Text.Split

/-!
# Identifiers of keys

The method `key` names an Ed25519 public key by its bytes: two bytes that tell the
kind of key and the key itself, in base 58 after a `z`. Such an identifier resolves
to a document without looking anything up.
-/

namespace WalletCredentials.DidKey

/-- The bytes in front of an Ed25519 public key. -/
def multicodec : List UInt8 := [0xed, 0x01]

/-- The name of the method. -/
def methodName : String := "key"

/-- The identifier of a public key. -/
def ofPublicKey (key : Ed25519.PublicKey) : Did where
  method := methodName
  identifier := "z" ++ Base58.encode (multicodec ++ key.bytes)
  method_ne := by decide
  method_chars := by decide
  identifier_ne := by simp

/-- The public key that an identifier names. -/
def publicKey (did : Did) : Except ToolkitError Ed25519.PublicKey :=
  if did.method ≠ methodName then .error (.unsupportedMethod did.method)
  else match did.identifier.toList with
    | 'z' :: digits =>
        match Base58.decode (String.ofList digits) with
        | .error fault => .error (.invalidDid (did.text ++ ": " ++ fault.message))
        | .ok (0xed :: 0x01 :: bytes) =>
            (Ed25519.PublicKey.ofBytes bytes).mapError fun fault => .invalidDid fault.message
        | .ok _ => .error (.invalidDid (did.text ++ ": not an Ed25519 key"))
    | _ => .error (.invalidDid (did.text ++ ": unsupported multibase"))

/-- Reads an identifier and finds the public key that it names. -/
def read (text : String) : Except ToolkitError (Did × Ed25519.PublicKey) := do
  let did ← (Did.read text).mapError fun e => .invalidDid e.message
  return (did, ← publicKey did)

/-- The identifier that a key has under a method. -/
def ofJwk (method : String) (key : Jwk) : Except ToolkitError Did := do
  if method ≠ methodName then throw (.unsupportedMethod method)
  return ofPublicKey (← key.publicKey)

/-- The entry for the verification method of an identifier. -/
def methodEntry (did : Did) (key : Ed25519.PublicKey) : Json :=
  .ofMembers [("id", .string did.verificationMethod),
    ("type", .string "Ed25519VerificationKey2020"),
    ("controller", .string did.text),
    ("publicKeyJwk", Record.toJson (Jwk.ofPublicKey key))]

/-- The document of an identifier. -/
def document (did : Did) (key : Ed25519.PublicKey) : Json :=
  .ofMembers [("@context", .strings ["https://www.w3.org/ns/did/v1"]),
    ("id", .string did.text),
    ("verificationMethod", .array [methodEntry did key]),
    ("authentication", .strings [did.verificationMethod]),
    ("assertionMethod", .strings [did.verificationMethod])]

/-- The document that a text resolves to. -/
def resolve (text : String) : Except ToolkitError Json :=
  (read text).map fun (did, key) => document did key

/-- The identifier in an address. -/
def ofUrl (url : String) : String := String.ofList (Text.cut '#' url.toList).1

/-- What an address names: the document of an identifier, or an entry of it. -/
def dereference (url : String) : Except ToolkitError Json := do
  let (did, key) ← read (ofUrl url)
  match (Text.cut '#' url.toList).2 with
  | none => return document did key
  | some _ =>
      if did.verificationMethod = url then return methodEntry did key
      else throw (.notFound url)

end WalletCredentials.DidKey
