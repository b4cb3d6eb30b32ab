import WalletCredentials.Proofs.Jwk
import WalletCredentials.Server.Routes

/-!
# What a server starts with

The lifetimes that are read from an environment lie between a second and ten years. A server that
is given a key that can sign, or none, starts with a key that can sign and with empty stores.
-/

namespace WalletCredentials

open Ed25519

namespace Config

variable {environment : Environment} {config : Config}

/-- A number that is read lies within its bounds, as the usual one does. -/
theorem bounds_of_readBounded {name : String} {usual bound n : Nat}
    (husual : 0 < usual ∧ usual ≤ bound) (h : readBounded environment name usual bound = .ok n) :
    0 < n ∧ n ≤ bound := by
  rw [readBounded] at h
  split at h
  · cases h
    exact husual
  · split at h
    · cases h
    · split at h
      · cases h
      · split at h
        · cases h
        · cases h
          omega

/-- Tells that a span is a whole number of seconds, at least one and ten years at most. -/
def IsLifetime (span : Timestamp.Span) : Prop :=
  ∃ seconds : Int, span = .ofSeconds seconds ∧ 0 < seconds ∧ seconds ≤ maxLifetime

theorem isLifetime_of_readBounded {name : String} {n : Nat}
    (h : readBounded environment name 900 maxLifetime.toNat = .ok n) :
    IsLifetime (.ofSeconds n) := by
  obtain ⟨hpos, hmax⟩ := bounds_of_readBounded (by decide) h
  refine ⟨n, rfl, by omega, ?_⟩
  exact Int.le_trans (Int.ofNat_le.mpr hmax) (by decide)

/-- The settings of an environment are read one by one, each from its own variable. -/
structure IsRead (environment : Environment) (config : Config) : Prop where
  port : readPort environment = .ok config.port
  secret : readSecret environment = .ok config.secret
  issuerKey : readIssuerKey environment = .ok config.issuerKey
  publicUrl : config.publicUrl = (environment "PUBLIC_URL").map Text.withoutEndSlashes
  offerTtl : ∃ n, readBounded environment "OFFER_TTL_SECS" 900 maxLifetime.toNat = .ok n ∧
    config.offerTtl = .ofSeconds n
  requestTtl : ∃ n, readBounded environment "REQUEST_TTL_SECS" 900 maxLifetime.toNat = .ok n ∧
    config.requestTtl = .ofSeconds n
  toolkitTimeout :
    readBounded environment "TOOLKIT_TIMEOUT_MS" 5000 3600000 = .ok config.toolkitTimeout
  sweepInterval :
    readBounded environment "SWEEP_INTERVAL_SECS" 60 86400 = .ok config.sweepInterval
  logFormat : readLogFormat environment = .ok config.logFormat

theorem read_eq_ok_iff : read environment = .ok config ↔ IsRead environment config := by
  simp only [read, bind_eq_ok_iff, pure_eq_ok_iff]
  constructor
  · rintro ⟨port, hport, secret, hsecret, key, hkey, offer, hoffer, request, hrequest, timeout,
      htimeout, interval, hinterval, format, hformat, rfl⟩
    exact ⟨hport, hsecret, hkey, rfl, ⟨offer, hoffer, rfl⟩, ⟨request, hrequest, rfl⟩, htimeout,
      hinterval, hformat⟩
  · intro h
    obtain ⟨port, secret, key, url, offerTtl, requestTtl, timeout, interval, format⟩ := config
    obtain ⟨hport, hsecret, hkey, hurl, ⟨offer, hoffer, hofferTtl⟩, ⟨request, hrequest, hrequestTtl⟩,
      htimeout, hinterval, hformat⟩ := h
    dsimp only at *
    subst hurl hofferTtl hrequestTtl
    exact ⟨port, hport, secret, hsecret, key, hkey, offer, hoffer, request, hrequest, timeout,
      htimeout, interval, hinterval, format, hformat, rfl⟩

/-- The lifetimes that are read from an environment. -/
theorem isLifetime_of_read (h : read environment = .ok config) :
    IsLifetime config.offerTtl ∧ IsLifetime config.requestTtl := by
  have hread := read_eq_ok_iff.mp h
  obtain ⟨offerTtl, hoffer, hofferTtl⟩ := hread.offerTtl
  obtain ⟨requestTtl, hrequest, hrequestTtl⟩ := hread.requestTtl
  rw [hofferTtl, hrequestTtl]
  exact ⟨isLifetime_of_readBounded hoffer, isLifetime_of_readBounded hrequest⟩

end Config

/-- Tells that a server starts as its configuration says, with a key pair that signs. -/
structure Server.StartsFrom (server : Server) (config : Config) (pair : KeyPair) : Prop where
  issuerKey : server.settings.issuerKey = Jwk.ofKeyPair pair
  offerTtl : server.settings.offerTtl = config.offerTtl
  requestTtl : server.settings.requestTtl = config.requestTtl
  stores : server.stores = .empty

/-- A server starts if the key of its configuration, if there is one, can sign. -/
theorem Server.exists_startsFrom {config : Config}
    (hkey : ∀ key, config.issuerKey = some key → ∃ pair, key.keyPair = .ok pair)
    (clock : Timestamp) (freshSecret : Secret) (freshPair : KeyPair) :
    ∃ server pair, ofConfig config (.ofClock clock) freshSecret freshPair = .done (.ok server) ∧
      server.StartsFrom config pair := by
  rw [ofConfig]
  cases hissuer : config.issuerKey with
  | some key =>
      obtain ⟨pair, hpair⟩ := hkey key hissuer
      exact ⟨_, pair, rfl, ⟨Jwk.keyPair_eq_ok_iff.mp hpair, rfl, rfl, rfl⟩⟩
  | none => exact ⟨_, freshPair, rfl, ⟨rfl, rfl, rfl, rfl⟩⟩

end WalletCredentials
