import WalletCredentials.DidKey
import WalletCredentials.Json.Canonical
import WalletCredentials.Proof.Options

/-!
# Embedded proofs

A proof is a member of the document that it signs. The signature covers the canonical
form of the document without its proof, together with the proof without its value, so
that neither can be changed afterwards.
-/

namespace WalletCredentials.Proof

/-- The bytes that a proof signs. -/
def signingInput (document proof : List (String × Json)) : List UInt8 :=
  (Json.ofMembers [("document", .object (Dictionary.erase "proof" document)),
    ("proof", .object (Dictionary.erase "proofValue" proof))]).canonicalBytes

/-- The members of a proof before it is signed. -/
def unsignedMembers (created : Timestamp) (options : ProofOptions) : List (String × Json) :=
  let text (name : String) : Option String → List (String × Json)
    | some s => [(name, .string s)]
    | none => []
  Dictionary.ofList <|
    [("type", .string "Ed25519Signature2020"),
      ("created", .string created.text),
      ("verificationMethod", .string options.verificationMethod),
      ("proofPurpose", options.purpose.toJson)] ++
    text "challenge" options.challenge ++ text "domain" options.domain

/-- The text of a signature in a proof. -/
def valueOfSignature (signature : Ed25519.Signature) : String :=
  "u" ++ Base64Url.encode signature.bytes

/-- The bytes that the text of a proof's signature stands for. -/
def bytesOfValue? (text : String) : Option (List UInt8) :=
  match text.toList with
  | 'u' :: digits => Base64Url.ofDigits? digits
  | _ => none

/-- The document with a proof by a key, in place of an earlier proof. -/
def sign (created : Timestamp) (document : Json) (options : ProofOptions) (key : Jwk) :
    Except ToolkitError Json := do
  let members ← match document.members? with
    | some members => pure members
    | none => throw (.malformedDocument "expected a JSON object")
  let pair ← key.keyPair
  if DidKey.ofUrl options.verificationMethod ≠ (DidKey.ofPublicKey pair.publicKey).text then
    throw (.signing ("verification method " ++ options.verificationMethod ++
      " is not controlled by the signing key"))
  let proof := unsignedMembers created options
  let signature := pair.sign (signingInput members proof)
  let signed := Dictionary.insert "proofValue" (.string (valueOfSignature signature)) proof
  return .object (Dictionary.insert "proof" (.object signed) members)

/-- Why a document does not carry a valid proof. -/
inductive Fault
  | notAnObject
  | missingProof
  | purpose (expected : ProofPurpose) (found : String)
  | missingMethod
  /-- The address of the key names no key. -/
  | method (error : ToolkitError)
  | value
  | signatureLength (fault : SignatureFault)
  | signature
  deriving DecidableEq, Repr

/-- The wording of a fault. -/
def Fault.message : Fault → String
  | .notAnObject => "document is not a JSON object"
  | .missingProof => "missing proof"
  | .purpose expected found =>
      "expected proof purpose " ++ expected.text ++ ", found " ++ Text.quoted found
  | .missingMethod => "missing verificationMethod"
  | .method error => error.message
  | .value => "proofValue is not multibase base64url"
  | .signatureLength fault => fault.message
  | .signature => "signature error"

/-- The value of an optional result, whose absence is a fault. -/
def orFault {α : Type} (fault : Fault) : Option α → Except Fault α
  | some a => .ok a
  | none => .error fault

/-- Checks the proof of a document, and finds its signer and its members. -/
def check (document : Json) (purpose : ProofPurpose) :
    Except Fault (Did × List (String × Json)) := do
  let members ← orFault .notAnObject document.members?
  let proof ← orFault .missingProof ((Dictionary.find? "proof" members).bind Json.members?)
  let text? (name : String) : Option String := (Dictionary.find? name proof).bind Json.string?
  let found := (text? "proofPurpose").getD ""
  if found ≠ purpose.text then throw (.purpose purpose found)
  let method ← orFault .missingMethod (text? "verificationMethod")
  let (signer, key) ← (DidKey.read (DidKey.ofUrl method)).mapError .method
  let bytes ← orFault .value ((text? "proofValue").bind bytesOfValue?)
  let signature ← (Ed25519.Signature.ofBytes bytes).mapError .signatureLength
  (Ed25519.verify (signingInput members proof) signature key).mapError fun _ => .signature
  return (signer, proof)

end WalletCredentials.Proof
