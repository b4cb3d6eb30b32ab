import WalletCredentials.Offer.Credential
import WalletCredentials.Registry

/-!
# Stores

The services keep the offers that were redeemed and the sign-in requests that were
handed out. A sweep takes out of both what may no longer be used.
-/

namespace WalletCredentials

/-- The offers that were redeemed, under their identifiers. -/
abbrev OfferStore := Registry CredentialOffer

/-- The sign-in requests that were handed out, under their challenges. -/
abbrev RequestStore := Registry SignInRequest

/-- What the services keep. -/
structure Stores where
  offers : OfferStore
  requests : RequestStore

/-- The stores without entries. -/
def Stores.empty : Stores := ⟨∅, ∅⟩

/-- The number of entries that a sweep took out of each store. -/
structure SweepReport where
  offers : Nat
  requests : Nat
  deriving DecidableEq, Repr

/-- Takes out of both stores what may no longer be used. -/
def Stores.sweep (stores : Stores) (now : Timestamp) : SweepReport × Stores :=
  let (offers, offerStore) := stores.offers.evict now
  let (requests, requestStore) := stores.requests.evict now
  (⟨offers, requests⟩, ⟨offerStore, requestStore⟩)

end WalletCredentials
