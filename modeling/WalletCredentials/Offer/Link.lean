import WalletCredentials.Exchange.Settings
import WalletCredentials.Offer.Token
import WalletCredentials.Url.Reader

/-!
# Offer links

An offer token travels as the query of an address, under a base address of the server
that redeems it.
-/

namespace WalletCredentials.OfferToken

/-- The pairs of a token. -/
def pairs (token : OfferToken) : List (String × String) :=
  [("id", token.id), ("expires", token.expires), ("hmac", token.signature.text)]

/-- The address at which a token is redeemed. -/
def url (token : OfferToken) (base : String) : Except UrlFault Url := do
  let url ← Url.read (Text.withoutEndSlashes base ++ "/offer")
  return url.withPairs token.pairs

/-- Why no link can be made. -/
inductive LinkFault
  /-- The lifetime is too short or too long. -/
  | lifetime (seconds : Int)
  | time (error : InputError)
  | base (text : String) (fault : UrlFault)
  deriving DecidableEq

/-- The wording of a fault. -/
def LinkFault.message : LinkFault → String
  | .lifetime seconds =>
      "--ttl must be between 1 and " ++ Text.ofInt maxLifetime ++ " seconds, got " ++
        Text.ofInt seconds
  | .time error => error.message
  | .base text fault => "invalid base URL " ++ Text.quoted text ++ ": " ++ fault.message

/-- The link of an offer that may be redeemed for some seconds from now on. -/
def mintUrl (secret : Secret) (id base : String) (seconds : Int) (now : Timestamp) :
    Except LinkFault Url := do
  if seconds < 1 ∨ maxLifetime < seconds then throw (.lifetime seconds)
  let last ← (now.plus (.ofSeconds seconds)).mapError .time
  ((OfferToken.sign secret id last.text).url base).mapError (.base base)

/-- Checks a link as the server would when it is redeemed. Of two values of one name the
first counts, and an absent one is empty. -/
def checkUrl (secret : Secret) (url : Url) (now : Timestamp) : Except ExchangeError Unit :=
  let value (name : String) : String := (url.value? name).getD ""
  check secret (value "id") (value "expires") (value "hmac") now

end WalletCredentials.OfferToken
