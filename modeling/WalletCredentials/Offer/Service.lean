import WalletCredentials.Exchange.Call
import WalletCredentials.Exchange.Settings
import WalletCredentials.Exchange.Stores

/-!
# Offers

An offer goes through three states. First there is only its token, in the hands of a
wallet. When the token is redeemed the offer is kept in the store, and when a subject
is bound to it its credential is issued. The operations on the store say what they
answer and what the store is afterwards.
-/

namespace WalletCredentials.Offers

variable (toolkit : Toolkit) (settings : Settings)

/-- An input error as a failure of the service. -/
def orInternal {α : Type} (result : Except InputError α) : Except ExchangeError α :=
  result.mapError fun e => .internal e.message

/-- The identifier of a key. -/
def didOf (key : Jwk) : Except ExchangeError Did :=
  (toolkit.keyToDid DidKey.methodName key).value "key_to_did"

/-- The identifier of a key made from fresh randomness. -/
def freshDid (fresh : Ed25519.KeyPair) : Except ExchangeError Did := do
  let key ← (toolkit.generateKey fresh).value "generate_key"
  didOf toolkit key

/-- A token for a fresh identifier, to be redeemed within the lifetime of offers. -/
def createToken (fresh : Ed25519.KeyPair) (now : Timestamp) : Except ExchangeError OfferToken := do
  let id ← freshDid toolkit fresh
  let last ← orInternal (now.plus settings.offerTtl)
  return OfferToken.sign settings.secret id.text last.text

/-- The offer that a token unlocks. -/
def prepare (id expires : String) (now : Timestamp) : Except ExchangeError CredentialOffer := do
  let issuer ← didOf toolkit settings.issuerKey
  orInternal (CredentialOffer.create id issuer now settings.offerTtl expires)

/-- The store with an offer under an identifier, as long as its credential is valid. -/
def keep (store : OfferStore) (id : String) (offer : CredentialOffer) : OfferStore :=
  (store.put id offer offer.preview.expirationDate).2

/-- Redeems a token: checks what was handed in for it, and keeps the offer that it
unlocks under the identifier, in place of an earlier one. -/
def redeem (id expires supplied : String) (now : Timestamp) (store : OfferStore) :
    Except ExchangeError CredentialOffer × OfferStore :=
  match (do
      OfferToken.check settings.secret id expires supplied now
      prepare toolkit settings id expires now) with
  | .ok offer => (.ok offer, keep store id offer)
  | .error e => (.error e, store)

/-- The signed credential of an offer. -/
def issue (offer : CredentialOffer) : Except ExchangeError Json := do
  let issuer ← orInternal (Did.read offer.preview.issuer)
  let result ← (toolkit.issueCredential (Record.toJson offer.preview) (.assertion issuer)
    settings.issuerKey).result "issue_credential"
  result.mapError fun e => .issuanceFailed e.message

/-- Binds a subject to an offer and issues its credential. The subject stays bound
where the credential cannot be issued. -/
def bindAndIssue (id subject : String) (now : Timestamp) (store : OfferStore) :
    Except ExchangeError Json × OfferStore :=
  if subject.isEmpty then (.error (.missingField "subject_id"), store)
  else if id.isEmpty then (.error (.missingField "id"), store)
  else
    match store.update id now (CredentialOffer.bind subject) with
    | (some offer, store) => (issue toolkit settings offer, store)
    | (none, store) => (.error (.unknownOffer id), store)

/-- The offer of an identifier, as if its token had been redeemed at once. -/
def prepareDirect (id : String) (now : Timestamp) : Except ExchangeError CredentialOffer := do
  let issuer ← didOf toolkit settings.issuerKey
  let last ← orInternal (now.plus settings.offerTtl)
  orInternal (CredentialOffer.create id issuer now settings.offerTtl last.text)

/-- Issues the credential of an offer for a fresh identifier without a subject, and keeps the
offer under the identifier. -/
def issueDirect (fresh : Ed25519.KeyPair) (now : Timestamp) (store : OfferStore) :
    Except ExchangeError Json × OfferStore :=
  match freshDid toolkit fresh with
  | .error e => (.error e, store)
  | .ok id =>
      match prepareDirect toolkit settings id.text now with
      | .ok offer => (issue toolkit settings offer, keep store id.text offer)
      | .error e => (.error e, store)

end WalletCredentials.Offers
