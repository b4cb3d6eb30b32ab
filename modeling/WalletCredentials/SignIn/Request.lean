import WalletCredentials.Record.Reader

/-!
# Sign-in requests

What a verifier asks of a wallet: a presentation of any credential, bound to a fresh
challenge and to the verifier's own domain.
-/

namespace WalletCredentials

/-- The context of verifiable credentials. -/
def credentialsContext : String := "https://www.w3.org/2018/credentials/v1"

/-- The type of verifiable credentials. -/
def credentialType : String := "VerifiableCredential"

/-- A request for a presentation. -/
structure SignInRequest where
  type : String
  queryType : String
  /-- The reason that the wallet shows. -/
  reason : String
  /-- The contexts and the type of the credential that is asked for. -/
  exampleContext : List String
  exampleType : String
  challenge : String
  domain : String
  deriving DecidableEq

namespace SignInRequest

/-- The shape of the credential that is asked for. -/
def exampleShape : Shape :=
  .record "CredentialExample" <|
  .cons (.plain "@context") (.list .text) <|
  .cons (.plain "type") .text .nil

/-- The shape of what is asked for, and why. -/
def credentialQueryShape : Shape :=
  .record "CredentialQuery" <|
  .cons (.plain "reason") .text <|
  .cons (.plain "example") exampleShape .nil

/-- The shape of the query of a request. -/
def queryShape : Shape :=
  .record "PresentationQuery" <|
  .cons (.plain "type") .text <|
  .cons (.plain "credentialQuery") credentialQueryShape .nil

/-- The fields of a request. -/
def fields : Fields :=
  .cons (.plain "type") .text <|
  .cons (.plain "query") queryShape <|
  .cons (.plain "challenge") .text <|
  .cons (.plain "domain") .text .nil

instance : Record SignInRequest where
  shape := .record "PresentationRequest" fields
  toValue r :=
    (r.type, (r.queryType, (r.reason, (r.exampleContext, r.exampleType, ()), ()), ()),
      r.challenge, r.domain, ())
  ofValue := fun
    (type, (queryType, (reason, (context, exampleType, ()), ()), ()), challenge, domain, ()) =>
    ⟨type, queryType, reason, context, exampleType, challenge, domain⟩

/-- The request for any credential, with a challenge, by a domain. -/
def signIn (challenge domain : String) : SignInRequest where
  type := "VerifiablePresentationRequest"
  queryType := "QueryByExample"
  reason := "Sign in"
  exampleContext := [credentialsContext]
  exampleType := credentialType
  challenge := challenge
  domain := domain

end SignInRequest

end WalletCredentials
