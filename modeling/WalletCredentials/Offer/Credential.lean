import WalletCredentials.SignIn.Request

/-!
# Credential offers

An offer holds the credential that a wallet may have, not signed yet and without a
subject until a wallet is bound to it.
-/

namespace WalletCredentials

/-- A credential before it is signed. -/
structure CredentialPreview where
  context : List String
  /-- The identifier made for the offer. -/
  id : String
  type : String
  issuer : String
  issuanceDate : Timestamp
  expirationDate : Timestamp
  /-- The wallet that the credential is issued to. -/
  subject : Option String
  deriving DecidableEq

/-- A credential on offer. -/
structure CredentialOffer where
  type : String
  preview : CredentialPreview
  /-- The end of the offer token, as it was handed in. -/
  expires : String
  deriving DecidableEq

namespace CredentialPreview

/-- The shape of the subject of a credential. -/
def subjectShape : Shape :=
  .record "CredentialSubject" <| .cons (.optional "id") (.optional .text) .nil

instance : Record CredentialPreview where
  shape := .record "CredentialPreview" <|
    .cons (.plain "@context") (.list .text) <|
    .cons (.plain "id") .text <|
    .cons (.plain "type") .text <|
    .cons (.plain "issuer") .text <|
    .cons (.plain "issuanceDate") .timestamp <|
    .cons (.plain "expirationDate") .timestamp <|
    .cons (.plain "credentialSubject") subjectShape .nil
  toValue p :=
    (p.context, p.id, p.type, p.issuer, p.issuanceDate, p.expirationDate, (p.subject, ()), ())
  ofValue := fun (context, id, type, issuer, issued, expires, (subject, ()), ()) =>
    ⟨context, id, type, issuer, issued, expires, subject⟩

end CredentialPreview

namespace CredentialOffer

instance : Record CredentialOffer where
  shape := .record "CredentialOffer" <|
    .cons (.plain "type") .text <|
    .cons (.plain "credentialPreview") (Record.shape CredentialPreview) <|
    .cons (.plain "expires") .text .nil
  toValue o := (o.type, Record.toValue o.preview, o.expires, ())
  ofValue := fun (type, preview, expires, ()) =>
    ⟨type, Record.ofValue preview, expires⟩

/-- The offer of a credential that is valid for a span from now on. -/
def create (id : String) (issuer : Did) (now : Timestamp) (validity : Timestamp.Span)
    (expires : String) : Except InputError CredentialOffer := do
  let expirationDate ← now.plus validity
  return {
    type := "CredentialOffer"
    preview := {
      context := [credentialsContext, "https://schema.org/"]
      id := id
      type := credentialType
      issuer := issuer.text
      issuanceDate := now
      expirationDate := expirationDate
      subject := none }
    expires := expires }

/-- The identifier of an offer. -/
def id (offer : CredentialOffer) : String := offer.preview.id

/-- The offer with its credential bound to a wallet. -/
def bind (subject : String) (offer : CredentialOffer) : CredentialOffer :=
  { offer with preview := { offer.preview with subject := some subject } }

end CredentialOffer

end WalletCredentials
