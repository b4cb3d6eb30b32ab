import WalletCredentials.Proof.Verification

/-!
# The toolkit

The services leave keys and signed documents to a toolkit. A call of the toolkit may
fail, break down or never come to an end; the toolkit of this library only fails.
-/

namespace WalletCredentials

/-- How a call of the toolkit ends. -/
inductive Outcome (α : Type)
  | done (result : Except ToolkitError α)
  /-- The call broke down. -/
  | broken
  /-- The call did not end in time. -/
  | unending

/-- The operations that the services leave to a toolkit. -/
structure Toolkit where
  /-- The private key made from fresh randomness. -/
  generateKey : Ed25519.KeyPair → Outcome Jwk
  /-- The identifier of a key under a method. -/
  keyToDid : String → Jwk → Outcome Did
  /-- The credential signed with a key. -/
  issueCredential : Json → ProofOptions → Jwk → Outcome Json
  verifyCredential : Json → VerifyOptions → Outcome VerificationResult
  verifyPresentation : Json → VerifyOptions → Outcome VerificationResult

/-- An empty presentation by a holder. -/
def emptyPresentation (holder : Did) : Json :=
  .ofMembers [("@context", .strings [credentialsContext]),
    ("type", .strings ["VerifiablePresentation"]),
    ("holder", .string holder.text)]

/-- The toolkit for identifiers of keys, at a time of its clock. -/
def Toolkit.ofClock (clock : Timestamp) : Toolkit where
  generateKey fresh := .done (.ok (Jwk.ofKeyPair fresh))
  keyToDid method key := .done (DidKey.ofJwk method key)
  issueCredential credential options key := .done (Proof.sign clock credential options key)
  verifyCredential credential _ := .done (.ok (Proof.verifyCredential clock credential))
  verifyPresentation presentation options :=
    .done (.ok (Proof.verifyPresentation presentation options))

end WalletCredentials
