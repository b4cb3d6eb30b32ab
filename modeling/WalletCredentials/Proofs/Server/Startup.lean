import Mathlib.Data.List.DropRight
import WalletCredentials.Proofs.DidDocument
import WalletCredentials.Proofs.Offer.Link
import WalletCredentials.Proofs.Proof.Signing
import WalletCredentials.Proofs.Server.Config

/-!
# What a server starts with and cannot use

An environment is read without its key being decoded and without its base being taken for an
address. So any two texts of the right shape are enough to start. What is usable of it is usable in
every request, and what is not fails in every one.
-/

namespace WalletCredentials

open Ed25519

theorem Text.withoutEndSlashes_idem (text : String) :
    withoutEndSlashes (withoutEndSlashes text) = withoutEndSlashes text := by
  simp only [withoutEndSlashes, dropEnd, String.toList_ofList, List.reverse_reverse,
    List.dropWhile_idempotent]

namespace Jwk

variable {key : Jwk}

/-- Tells that a key has an identifier and signs every object on behalf of it. -/
def Signs (key : Jwk) : Prop :=
  ∃ did, ∀ clock, (Toolkit.ofClock clock).keyToDid DidKey.methodName key = .done (.ok did) ∧
    ∀ members, ∃ document, (Toolkit.ofClock clock).issueCredential (.object members)
      (.assertion did) key = .done (.ok document)

/-- The keys that sign are the private keys of the key pairs. -/
theorem signs_iff : key.Signs ↔ ∃ pair, key = ofKeyPair pair := by
  constructor
  · rintro ⟨did, hdid⟩
    obtain ⟨document, hsign⟩ := (hdid .epoch).2 []
    obtain ⟨-, pair, -, hkey, -⟩ := Proof.sign_eq_ok_iff.mp (Outcome.done.inj hsign)
    exact ⟨pair, hkey⟩
  · rintro ⟨pair, rfl⟩
    refine ⟨DidKey.ofPublicKey pair.publicKey, fun clock => ⟨?_, fun members => ?_⟩⟩
    · exact congrArg Outcome.done (DidKey.ofJwk_eq_ok_iff.mpr ⟨pair.publicKey, rfl, rfl⟩)
    · refine ⟨_, congrArg Outcome.done (Proof.sign_eq_ok_iff.mpr ⟨members, pair, rfl, rfl, ?_, rfl⟩)⟩
      exact DidKey.ofUrl_verificationMethod pair.publicKey

/-- A key that does not sign every object signs none. -/
theorem sign_of_not_signs (h : ¬key.Signs) (clock : Timestamp) (document : Json)
    (options : ProofOptions) : ∃ e, Proof.sign clock document options key = .error e := by
  cases hsign : Proof.sign clock document options key with
  | error e => exact ⟨e, rfl⟩
  | ok signed =>
      obtain ⟨-, pair, -, hkey, -⟩ := Proof.sign_eq_ok_iff.mp hsign
      exact absurd (signs_iff.mpr ⟨pair, hkey⟩) h

end Jwk

namespace OfferToken

variable {base : String}

/-- Tells that every token has a link under a base. -/
def HasLinks (base : String) : Prop := ∀ token : OfferToken, ∃ url, token.url base = .ok url

/-- Tokens have links under the bases that an address starts with. -/
theorem hasLinks_iff :
    HasLinks base ↔ ∃ url, Url.read (Text.withoutEndSlashes base ++ "/offer") = .ok url := by
  constructor
  · intro h
    obtain ⟨_, hurl⟩ := h ⟨"", "", List.replicate Hmac.digestBytes 0, List.length_replicate⟩
    obtain ⟨url, hread, -⟩ := url_eq_ok_iff.mp hurl
    exact ⟨url, hread⟩
  · rintro ⟨url, hread⟩ token
    exact ⟨url.withPairs token.pairs, url_eq_ok_iff.mpr ⟨url, hread, rfl⟩⟩

/-- Without links for every token there is the same fault for each. -/
theorem url_of_not_hasLinks (h : ¬HasLinks base) :
    ∃ fault, ∀ token : OfferToken, token.url base = .error fault := by
  cases hread : Url.read (Text.withoutEndSlashes base ++ "/offer") with
  | ok url => exact absurd (hasLinks_iff.mpr ⟨url, hread⟩) h
  | error fault =>
      refine ⟨fault, fun token => ?_⟩
      rw [url, hread, error_bind]

end OfferToken

namespace Config

variable {environment : Environment} {config : Config}

theorem readIssuerKey_of_stated {text : String} {found : Option Jwk}
    (h : environment "ISSUER_KEY" = some text) :
    readIssuerKey environment = .ok found ↔
      ∃ key, Jwk.read text = .ok key ∧ key.isPrivate ∧ found = some key := by
  simp only [readIssuerKey, h]
  cases Jwk.read text with
  | error e => simp
  | ok key =>
      by_cases hprivate : key.isPrivate = true
      · simp only [Except.ok.injEq, exists_eq_left', hprivate, if_true, true_and]
        exact eq_comm
      · simp [hprivate]

/-- An environment that differs in its key and its base starts with these in place of the others. -/
theorem IsRead.of_agree {other : Environment} {key : Option Jwk}
    (h : IsRead environment config) (hkey : readIssuerKey other = .ok key)
    (hagree : ∀ name, name ≠ "ISSUER_KEY" → name ≠ "PUBLIC_URL" →
      other name = environment name) :
    IsRead other { config with
      issuerKey := key
      publicUrl := (other "PUBLIC_URL").map Text.withoutEndSlashes } := by
  -- Each reader looks at one variable, which is neither of the two for all but two of them.
  have hbounded {name : String} (usual bound : Nat) (hne : name ≠ "ISSUER_KEY")
      (hne' : name ≠ "PUBLIC_URL") :
      readBounded other name usual bound = readBounded environment name usual bound := by
    rw [readBounded, readBounded, hagree name hne hne']
  constructor
  case port => rw [readPort, hagree "PORT" (by decide) (by decide), ← readPort, h.port]
  case secret =>
    rw [readSecret, hagree "HMAC_SECRET" (by decide) (by decide), ← readSecret, h.secret]
  case issuerKey => exact hkey
  case publicUrl => rfl
  case offerTtl =>
    rw [hbounded 900 _ (by decide) (by decide)]
    exact h.offerTtl
  case requestTtl =>
    rw [hbounded 900 _ (by decide) (by decide)]
    exact h.requestTtl
  case toolkitTimeout => rw [hbounded 5000 _ (by decide) (by decide), h.toolkitTimeout]
  case sweepInterval => rw [hbounded 60 _ (by decide) (by decide), h.sweepInterval]
  case logFormat =>
    rw [readLogFormat, hagree "LOG_FORMAT" (by decide) (by decide), ← readLogFormat, h.logFormat]

/-- Tells that the key and the base of a configuration can be used, where it has them. -/
structure IsUsable (config : Config) : Prop where
  key : ∀ key, config.issuerKey = some key → key.Signs
  base : ∀ base, config.publicUrl = some base → OfferToken.HasLinks base

theorem IsRead.key_signs_iff (h : IsRead environment config) :
    (∀ key, config.issuerKey = some key → key.Signs) ↔
      ∀ text, environment "ISSUER_KEY" = some text →
        ∃ pair, Jwk.read text = .ok (Jwk.ofKeyPair pair) := by
  have hread := h.issuerKey
  cases hstated : environment "ISSUER_KEY" with
  | none =>
      simp only [readIssuerKey, hstated, Except.ok.injEq] at hread
      simp [← hread]
  | some text =>
      obtain ⟨key, hkey, -, hfound⟩ := (readIssuerKey_of_stated hstated).mp hread
      simp [hfound, hkey, Jwk.signs_iff]

theorem IsRead.base_hasLinks_iff (h : IsRead environment config) :
    (∀ base, config.publicUrl = some base → OfferToken.HasLinks base) ↔
      ∀ text, environment "PUBLIC_URL" = some text →
        ∃ url, Url.read (Text.withoutEndSlashes text ++ "/offer") = .ok url := by
  rw [h.publicUrl]
  cases environment "PUBLIC_URL" with
  | none => simp
  | some text => simp [OfferToken.hasLinks_iff, Text.withoutEndSlashes_idem]

/-- Tells that a configuration is taken from an environment without its key and its base being
tried, so that they may be of no use. -/
structure IsTakenUntried (environment : Environment) (config : Config) : Prop where
  usable_iff : config.IsUsable ↔
    (∀ text, environment "ISSUER_KEY" = some text →
      ∃ pair, Jwk.read text = .ok (Jwk.ofKeyPair pair)) ∧
    ∀ text, environment "PUBLIC_URL" = some text →
      ∃ url, Url.read (Text.withoutEndSlashes text ++ "/offer") = .ok url
  /-- Any two texts in place of the key and the base will do, the one having the parts of a private
  key and the other being what it may. -/
  taken : ∀ (other : Environment) (text : String) (key : Jwk),
    (∀ name, name ≠ "ISSUER_KEY" → name ≠ "PUBLIC_URL" → other name = environment name) →
    other "ISSUER_KEY" = some text → Jwk.read text = .ok key → key.isPrivate →
    read other = .ok { config with
      issuerKey := some key
      publicUrl := (other "PUBLIC_URL").map Text.withoutEndSlashes }
  /-- What is of no use fails in every request that would use it. -/
  key_fails : ∀ key, config.issuerKey = some key → ¬key.Signs → ∀ clock document options,
    ∃ e, (Toolkit.ofClock clock).issueCredential document options key = .done (.error e)
  base_fails : ∀ base, config.publicUrl = some base → ¬OfferToken.HasLinks base →
    ∃ fault, ∀ token : OfferToken, token.url base = .error fault

/-- Whatever is read from an environment is taken untried. It is usable exactly if its key is the
private key of a key pair and the path of offers behind its base is read as an address. -/
theorem isTakenUntried_of_read (h : read environment = .ok config) :
    IsTakenUntried environment config := by
  have hread := read_eq_ok_iff.mp h
  constructor
  case usable_iff =>
    rw [← hread.key_signs_iff, ← hread.base_hasLinks_iff]
    exact ⟨fun husable => ⟨husable.key, husable.base⟩, fun ⟨hkey, hbase⟩ => ⟨hkey, hbase⟩⟩
  case taken =>
    -- The text is only asked to read as a key with a private part, and the base is asked nothing.
    intro other text key hagree hstated hkey hprivate
    have hissuer := (readIssuerKey_of_stated hstated).mpr ⟨key, hkey, hprivate, rfl⟩
    exact read_eq_ok_iff.mpr (hread.of_agree hissuer hagree)
  case key_fails =>
    intro key _ hkey clock document options
    obtain ⟨e, he⟩ := Jwk.sign_of_not_signs hkey clock document options
    exact ⟨e, congrArg Outcome.done he⟩
  case base_fails =>
    intro base _ hbase
    exact OfferToken.url_of_not_hasLinks hbase

/-- An environment with a key of no bytes and a base that is no address. -/
def useless : Environment
  | "ISSUER_KEY" => some "\x7b\"kty\":\"OKP\",\"crv\":\"Ed25519\",\"x\":\"\",\"d\":\"\"\x7d"
  | "PUBLIC_URL" => some "my server/"
  | _ => none

/-- The configuration that is read from it. -/
def uselessConfig : Config where
  port := 8080
  secret := none
  issuerKey := some ⟨"", some ""⟩
  publicUrl := some "my server"
  offerTtl := .ofSeconds 900
  requestTtl := .ofSeconds 900
  toolkitTimeout := 5000
  sweepInterval := 60
  logFormat := .text

theorem read_useless : read useless = .ok uselessConfig := by decide +kernel

/-- A server starts with a key of no bytes and a base that is no address. It signs nothing and
hands out no link. -/
theorem not_isUsable_useless :
    read useless = .ok uselessConfig ∧ ¬uselessConfig.IsUsable ∧
      (∀ clock document options, ∃ e, (Toolkit.ofClock clock).issueCredential document options
        ⟨"", some ""⟩ = .done (.error e)) ∧
      ∃ fault, ∀ token : OfferToken, token.url "my server" = .error fault := by
  have htaken := isTakenUntried_of_read read_useless
  have hkey : ¬(⟨"", some ""⟩ : Jwk).Signs := by
    intro hsigns
    obtain ⟨pair, hpair⟩ := Jwk.signs_iff.mp hsigns
    have hpublic : Jwk.publicKey ⟨"", some ""⟩ = .ok pair.publicKey := by
      rw [hpair]
      exact Jwk.publicKey_ofKeyPair pair
    cases hpublic
  have hbase : ¬OfferToken.HasLinks "my server" := by
    rw [OfferToken.hasLinks_iff]
    rintro ⟨url, hread⟩
    have hfault : Url.read (Text.withoutEndSlashes "my server" ++ "/offer") = .error .relative := by
      decide +kernel
    rw [hfault] at hread
    cases hread
  refine ⟨read_useless, fun husable => hkey (husable.key _ rfl), ?_, ?_⟩
  · exact htaken.key_fails _ rfl hkey
  · exact htaken.base_fails _ rfl hbase

end Config

end WalletCredentials
