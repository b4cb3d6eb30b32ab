import WalletCredentials.Proofs.Exchange.Refusal

/-!
# Faults of the server

A service refuses what it cannot do for the one who asks, or it fails by a fault of its own: a
time that the calendar does not hold, a key that cannot sign, or a toolkit that does not do its
part. None of these faults comes about while the lifetimes fit into the calendar and the issuer
can sign, whatever is handed in.
-/

namespace WalletCredentials

open Ed25519

/-- Tells whether a refusal is a fault of the server and not of the one who asks. -/
def ExchangeError.isServerFault : ExchangeError → Bool
  | .issuanceFailed _ | .toolkitTimeout _ | .toolkit _ _ | .internal _ => true
  | _ => false

/-- Tells that an operation fails only by a fault of the one who asks. -/
abbrev BlamesClient {α : Type} (result : Except ExchangeError α) : Prop :=
  FailsOnly (fun e => e.isServerFault = false) result

/-! ## Checks -/

theorem OfferToken.blamesClient_check (secret : Secret) (id expires supplied : String)
    (now : Timestamp) : BlamesClient (check secret id expires supplied now) := by
  rw [check]
  refine FailsOnly.ite_throw rfl (FailsOnly.ite_throw rfl (FailsOnly.ite_throw rfl ?_))
  refine FailsOnly.bind (FailsOnly.mapError fun _ _ => rfl) fun last => ?_
  refine FailsOnly.ite_throw rfl ?_
  exact FailsOnly.ite (.error rfl) (.ok _)

namespace SignIn

theorem blamesClient_readPresentation (text : String) : BlamesClient (readPresentation text) := by
  rw [readPresentation]
  split
  · exact .ok _
  · exact .error rfl
  · exact .error rfl

theorem blamesClient_embeddedCredential (presentation : Json) :
    BlamesClient (embeddedCredential presentation) := by
  rw [embeddedCredential]
  split
  · exact .ok _
  · exact .error rfl

/-- With the toolkit for identifiers of keys, a presentation is refused only for what it is. -/
theorem blamesClient_verifyPresentation (clock : Timestamp) (challenge text domain : String)
    (now : Timestamp) (store : RequestStore) :
    BlamesClient (verifyPresentation (.ofClock clock) challenge text domain now store) := by
  rw [verifyPresentation]
  refine FailsOnly.ite_throw rfl (FailsOnly.ite_throw rfl ?_)
  refine (blamesClient_readPresentation text).bind fun presentation => ?_
  refine FailsOnly.bind (.of_eq_ok rfl) fun result => ?_
  refine FailsOnly.ite_throw rfl ?_
  refine (blamesClient_embeddedCredential presentation).bind fun credential => ?_
  refine FailsOnly.bind (.of_eq_ok rfl) fun result => ?_
  refine FailsOnly.ite_throw rfl ?_
  exact FailsOnly.ite (.error rfl) (.ok _)

end SignIn

/-! ## Lifetimes -/

/-- A lifetime of ten years at most ends in the calendar, up to the year 10000 and long after. -/
theorem Timestamp.exists_plus_of_year_le {now : Timestamp} {seconds : Int}
    (hyear : now.date.year ≤ 10000) (hpos : 0 < seconds) (hmax : seconds ≤ maxLifetime) :
    ∃ last, now.plus (.ofSeconds seconds) = .ok last := by
  have hday := Calendar.lt_of_year_le hyear
  rw [maxLifetime] at hmax
  apply exists_plus hpos
  rw [latest]
  omega

/-- Tells that settings let a server do its work at a time: the issuer can sign, and the lifetimes
end in the calendar. -/
structure Settings.IsSound (settings : Settings) (pair : KeyPair) (now : Timestamp) : Prop where
  issuerKey : settings.issuerKey = Jwk.ofKeyPair pair
  offer_end : ∃ last, now.plus settings.offerTtl = .ok last
  request_end : ∃ last, now.plus settings.requestTtl = .ok last

/-! ## Operations -/

section Operations

variable {settings : Settings} {pair : KeyPair} {now clock : Timestamp}

namespace Offers

variable (clock)

theorem exists_createToken (h : settings.IsSound pair now) (fresh : KeyPair) :
    ∃ token, createToken (.ofClock clock) settings fresh now = .ok token := by
  obtain ⟨last, hlast⟩ := h.offer_end
  exact ⟨_, createToken_eq_ok_iff.mpr ⟨last, hlast, rfl⟩⟩

theorem exists_prepare (h : settings.IsSound pair now) (id expires : String) :
    ∃ offer, prepare (.ofClock clock) settings id expires now = .ok offer := by
  obtain ⟨last, hlast⟩ := h.offer_end
  have hkey := Jwk.publicKey_ofKeyPair pair
  rw [← h.issuerKey] at hkey
  exact ⟨_, prepare_eq_ok_iff.mpr ⟨pair.publicKey, last, hkey, hlast, rfl⟩⟩

theorem exists_prepareFresh (h : settings.IsSound pair now) (fresh : KeyPair) :
    ∃ offer, prepareFresh (.ofClock clock) settings fresh now = .ok offer := by
  obtain ⟨last, hlast⟩ := h.offer_end
  have hkey := Jwk.publicKey_ofKeyPair pair
  rw [← h.issuerKey] at hkey
  exact ⟨_, prepareFresh_eq_ok_iff.mpr ⟨pair.publicKey, last, hkey, hlast, rfl⟩⟩

/-- A token that does not unlock an offer is at fault itself. -/
theorem blamesClient_unlock (h : settings.IsSound pair now) (id expires supplied : String) :
    BlamesClient (unlock (.ofClock clock) settings id expires supplied now) := by
  obtain ⟨offer, hoffer⟩ := exists_prepare clock h id expires
  rw [unlock]
  exact (OfferToken.blamesClient_check _ _ _ _ _).bind fun _ => .of_eq_ok hoffer

end Offers

/-- No operation of a run is refused by a fault of the server, as long as the settings are
sound. -/
theorem Operation.isServerFault_of_refusal {events : List Event} {operation : Operation}
    {e : ExchangeError} (h : settings.IsSound pair now)
    (hrefusal : (operation.perform (.ofClock clock) settings now
      (Stores.empty.after settings events)).1.refusal? = some e) :
    e.isServerFault = false := by
  -- What the server makes by itself it can make, and so only what is handed in can be refused.
  cases operation with
  | createToken fresh =>
      obtain ⟨token, htoken⟩ := Offers.exists_createToken clock h fresh
      simp only [perform, htoken] at hrefusal
      cases hrefusal
  | redeem id expires supplied =>
      have hredeem := Answer.refusal?_offer_eq_some_iff.mp hrefusal
      rw [Offers.fst_redeem] at hredeem
      exact Offers.blamesClient_unlock clock h id expires supplied e hredeem
  | bindAndIssue id subject =>
      rcases Offers.bindAndIssue_cases (.ofClock clock) settings id subject now
        (Stores.empty.after settings events).offers with
        ⟨e', hlacks, hstep⟩ | ⟨entry, hsubject, hid, hlive, hstep⟩
      · simp only [perform, hstep] at hrefusal
        cases hrefusal
        rcases hlacks with ⟨name, rfl⟩ | rfl
        · rfl
        · rfl
      · simp only [perform, hstep] at hrefusal
        have hissue := Answer.refusal?_credential_eq_some_iff.mp hrefusal
        exact absurd (.bound hsubject hid hlive hissue) (Stores.not_failsToIssue h.issuerKey)
  | issueDirect fresh =>
      obtain ⟨offer, hprepare⟩ := Offers.exists_prepareFresh clock h fresh
      simp only [perform, Offers.issueDirect_of_prepareFresh hprepare] at hrefusal
      have hfails : FailsToIssue (.ofClock clock) settings now
          (Stores.empty.after settings events).offers e (issueDirect fresh) offer.id
          ⟨offer, offer.preview.expirationDate⟩ :=
        .kept hprepare (Answer.refusal?_credential_eq_some_iff.mp hrefusal)
      exact absurd hfails (Stores.not_failsToIssue h.issuerKey)
  | createRequest challenge domain =>
      obtain ⟨last, hlast⟩ := h.request_end
      simp only [perform, SignIn.createRequest, hlast] at hrefusal
      cases hrefusal
  | verifyPresentation challenge text domain =>
      exact SignIn.blamesClient_verifyPresentation clock challenge text domain now _ e
        (Answer.refusal?_verdict_eq_some_iff.mp hrefusal)
  | sweep => cases hrefusal

end Operations

/-! ## Issuers -/

/-- Tells that the issuer that an offer states is an identifier whose verification method leads to
the key that signs. -/
def CredentialOffer.IsSignedBy (offer : CredentialOffer) (pair : KeyPair) : Prop :=
  ∃ issuer, Did.read offer.preview.issuer = .ok issuer ∧
    DidKey.read (DidKey.ofUrl (ProofOptions.assertion issuer).verificationMethod) =
      .ok (issuer, pair.publicKey)

/-- An offer that states the identifier of a key is signed by that key. -/
theorem CredentialOffer.isSignedBy_of_issuer {offer : CredentialOffer} {pair : KeyPair}
    (h : offer.preview.issuer = (DidKey.ofPublicKey pair.publicKey).text) :
    offer.IsSignedBy pair := by
  refine ⟨DidKey.ofPublicKey pair.publicKey, ?_, ?_⟩
  · rw [h, Did.read_text]
  · rw [ProofOptions.assertion, DidKey.ofUrl_verificationMethod]
    exact DidKey.read_eq_ok_iff.mpr ⟨rfl, rfl⟩

end WalletCredentials
