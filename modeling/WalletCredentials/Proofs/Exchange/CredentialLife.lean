import WalletCredentials.Proofs.Exchange.HonestFlow
import WalletCredentials.Proofs.Exchange.StoreInvariant
import WalletCredentials.Proofs.Proof.Expiry

/-!
# The life of a credential

A credential is issued from an offer that has not ended yet, by the key that the offer names, and
states the end of the offer as its own. So it is verified from then on through its end, and has
expired afterwards, if only its end can be read again: in the years that are written with four
digits.
-/

namespace WalletCredentials

open Ed25519

namespace Proof

/-- Tells that a credential is verified at every time through its end and has expired afterwards,
whatever a verifier expects beside that. -/
structure LivesThrough (credential : Json) (last : Timestamp) : Prop where
  verified : ∀ clock options, clock ≤ last → ∃ result : VerificationResult,
    (Toolkit.ofClock clock).verifyCredential credential options = .done (.ok result) ∧
      result.errors = []
  expired : ∀ clock options, last < clock → ∃ result : VerificationResult,
    (Toolkit.ofClock clock).verifyCredential credential options = .done (.ok result) ∧
      result.errors = ["credential has expired"]

variable {credential : Json} {last : Timestamp}

/-- What counts against a credential that its issuer has signed is its end alone. -/
theorem errors_verifyCredential_of_text {clock : Timestamp} {text : String}
    (hissuer : issuerFindings credential = [])
    (htext : credential.text? "expirationDate" = some text) :
    (verifyCredential clock credential).errors =
      (expirationFindings clock text).map Finding.message := by
  rw [verifyCredential_of_text htext, hissuer, List.nil_append, VerificationResult.ofFindings]

/-- It lives through its end if the end can be read. -/
theorem livesThrough_iff (hissuer : issuerFindings credential = [])
    (htext : credential.text? "expirationDate" = some last.text) :
    LivesThrough credential last ↔ last.HasFourDigitYear := by
  constructor
  · intro h
    obtain ⟨-, ⟨⟩, herrors⟩ := h.verified last ⟨none, "", .authentication⟩ le_rfl
    rw [errors_verifyCredential_of_text hissuer htext, List.map_eq_nil_iff,
      expirationFindings_eq_nil_iff] at herrors
    obtain ⟨last', hread, -⟩ := herrors
    exact Timestamp.exists_read_text_iff.mp ⟨last', hread⟩
  · intro hyear
    have hread := Timestamp.read_text hyear
    constructor
    case verified =>
      intro clock options hclock
      refine ⟨_, rfl, ?_⟩
      rw [errors_verifyCredential_of_text hissuer htext,
        expirationFindings_eq_nil_iff.mpr ⟨last, hread, hclock⟩, List.map_nil]
    case expired =>
      intro clock options hclock
      refine ⟨_, rfl, ?_⟩
      rw [errors_verifyCredential_of_text hissuer htext, expirationFindings_of_lt hread hclock]
      rfl

end Proof

theorem Toolkit.identifies_ofClock (clock : Timestamp) : (ofClock clock).Identifies :=
  fun _ _ h => Outcome.done.inj h

namespace Offers

variable {settings : Settings} {offer : CredentialOffer} {clock now : Timestamp}
variable {credential : Json}

/-- A credential lives through the end of its offer if the offer states the issuer that the settings
have. -/
theorem livesThrough_of_issue
    (hissuer : ∃ did, DidKey.ofJwk DidKey.methodName settings.issuerKey = .ok did ∧
      offer.preview.issuer = did.text)
    (h : issue (.ofClock clock) settings offer = .ok credential) :
    credential.text? "expirationDate" = some offer.preview.expirationDate.text ∧
      (Proof.LivesThrough credential offer.preview.expirationDate ↔
        offer.preview.expirationDate.HasFourDigitYear) := by
  obtain ⟨issuer, pair, hstated, hkey, -, rfl⟩ := issue_eq_ok_iff.mp h
  obtain ⟨did, hdid, hoffer⟩ := hissuer
  have hpair : issuer = DidKey.ofPublicKey pair.publicKey := by
    obtain ⟨key, hpublic, rfl⟩ := DidKey.ofJwk_eq_ok_iff.mp hdid
    rw [Did.text_injective (hstated.trans hoffer),
      Jwk.eq_publicKey hkey (Jwk.publicKey_eq_ok_iff.mpr (congrArg Jwk.x hpublic))]
  subst hpair
  obtain ⟨-, hstatedIssuer, -, hlast, -⟩ := offer.preview.stated_withProof clock
    (.assertion (DidKey.ofPublicKey pair.publicKey)) pair
  have hfindings := Proof.issuerFindings_withProof (hstatedIssuer.trans (congrArg some hstated.symm))
  exact ⟨hlast, Proof.livesThrough_iff hfindings hlast⟩

end Offers

variable {settings : Settings} {turns : List Turn} {operation : Operation} {now clock : Timestamp}
variable {credential : Json}

/-- A credential that is issued in a run lives from the time of its issuing through the end that it
states, if the year of that end has four digits, and in no other case. The run may be any, with
toolkits that fail or break down, and so may identifiers and subjects. -/
theorem Operation.livesThrough_of_credential (hspan : 0 < settings.offerTtl.seconds)
    (htoolkits : ∀ turn ∈ turns, turn.toolkit.Identifies)
    (h : (operation.perform (.ofClock clock) settings now
      (Stores.empty.afterTurns settings turns)).1 = .credential (.ok credential)) :
    ∃ last, credential.text? "expirationDate" = some last.text ∧ now ≤ last ∧
      (Proof.LivesThrough credential last ↔ last.HasFourDigitYear) := by
  have hkept : OfferStore.IsKeptBy (Stores.empty.afterTurns settings turns).offers settings :=
    Stores.isKeptBy_afterTurns OfferStore.IsKeptBy.empty htoolkits
  cases operation with
  | bindAndIssue id subject =>
      obtain ⟨entry, hentry, hnow, hissue⟩ :=
        Offers.exists_entry_of_bindAndIssue (Answer.credential.inj h)
      have hkeeps := hkept id entry hentry
      -- Binding the subject has changed neither the issuer nor the end.
      have hissuer : ∃ did, DidKey.ofJwk DidKey.methodName settings.issuerKey = .ok did ∧
          (entry.value.bind subject).preview.issuer = did.text := hkeeps.issuer
      obtain ⟨hlast, hlives⟩ := Offers.livesThrough_of_issue hissuer hissue
      refine ⟨(entry.value.bind subject).preview.expirationDate, hlast, ?_, hlives⟩
      rw [hkeeps.expiry_eq] at hnow
      exact hnow
  | issueDirect fresh =>
      have hresult := Answer.credential.inj h
      cases hprepare : Offers.prepareFresh (.ofClock clock) settings fresh now with
      | error e =>
          rw [Offers.issueDirect_of_prepareFresh_error hprepare] at hresult
          cases hresult
      | ok offer =>
          rw [Offers.issueDirect_of_prepareFresh hprepare] at hresult
          have hkeeps := Offers.keepsOffer_of_prepareFresh (Toolkit.identifies_ofClock clock) hprepare
          obtain ⟨hlast, hlives⟩ := Offers.livesThrough_of_issue hkeeps.issuer hresult
          refine ⟨_, hlast, ?_, hlives⟩
          obtain ⟨-, last, -, hplus, rfl⟩ := Offers.prepareFresh_eq_ok_iff.mp hprepare
          exact (Timestamp.lt_of_plus_span hspan hplus).le
  | createToken fresh => cases h
  | redeem id expires supplied => cases h
  | createRequest challenge domain => cases h
  | verifyPresentation challenge text domain => cases h
  | sweep => cases h

/-- A credential for a subject of marks and controls, issued in the last second of its offer, lives
through this second. -/
theorem Operation.livesThrough_of_last_second :
    let id := (DidKey.ofPublicKey (KeyPair.ofByte 1).publicKey).text
    let turns : List Turn := [⟨.issueDirect (.ofByte 1), .epoch, .ofClock .epoch⟩]
    (∀ turn ∈ turns, turn.toolkit.Identifies) ∧ ∃ credential,
      ((Operation.bindAndIssue id "\"&=#\u0000 明日").perform (.ofClock .epoch) .sample .afterEpoch
        (Stores.empty.afterTurns .sample turns)).1 = .credential (.ok credential) ∧
      credential.text? "expirationDate" = some Timestamp.afterEpoch.text ∧
      Proof.LivesThrough credential .afterEpoch := by
  intro id turns
  have htoolkits : ∀ turn ∈ turns, turn.toolkit.Identifies := by
    intro turn hturn
    rw [List.mem_singleton.mp hturn]
    exact Toolkit.identifies_ofClock .epoch
  have hkey : Settings.sample.issuerKey = Jwk.ofKeyPair (.ofByte 0) := rfl
  have hprepare : Offers.prepareFresh (.ofClock .epoch) .sample (.ofByte 1) .epoch =
      .ok (.between id (DidKey.ofPublicKey (KeyPair.ofByte 0).publicKey) .epoch .afterEpoch
        Timestamp.afterEpoch.text) :=
    Offers.prepareFresh_eq_ok_iff.mpr
      ⟨_, _, Jwk.publicKey_ofKeyPair (.ofByte 0), Timestamp.epoch_plus, rfl⟩
  have hentry := Event.stored?_perform_of_kept .empty
    (Event.kept?_issueDirect_eq_some_iff.mpr hprepare)
  obtain ⟨credential, hissued, hend⟩ : ∃ credential,
      ((Operation.bindAndIssue id "\"&=#\u0000 明日").perform (.ofClock .epoch) .sample .afterEpoch
        (Stores.empty.afterTurns .sample turns)).1 = .credential (.ok credential) ∧
      credential.text? "expirationDate" = some Timestamp.afterEpoch.text :=
    ⟨_, congrArg Answer.credential (Offers.bindAndIssue_of_issuer hkey rfl (by decide)
      (Did.text_ne _) hentry le_rfl), (CredentialPreview.stated_withProof _ _ _ _).2.2.2.1⟩
  obtain ⟨last, hlast, -, hlives⟩ := livesThrough_of_credential (by decide) htoolkits hissued
  have hyear : Timestamp.afterEpoch.HasFourDigitYear := by decide
  have heq := Timestamp.eq_of_text_eq hyear (Option.some.inj (hlast.symm.trans hend))
  rw [heq] at hlives
  exact ⟨htoolkits, credential, hissued, hend, hlives.mpr hyear⟩

/-- A credential that ends before the year 0 is never verified. -/
theorem Operation.not_livesThrough_before_year_zero :
    ¬∀ (settings : Settings) (turns : List Turn) (operation : Operation)
        (now clock last : Timestamp) (credential : Json),
      0 < settings.offerTtl.seconds → 0 < settings.requestTtl.seconds →
      (∀ turn ∈ turns, turn.toolkit.Identifies) →
      (operation.perform (.ofClock clock) settings now
        (Stores.empty.afterTurns settings turns)).1 = .credential (.ok credential) →
      credential.text? "expirationDate" = some last.text → last.date.year < 10000 →
      Proof.LivesThrough credential last := by
  intro h
  have hplus : Flow.hourBefore.plus Settings.sample.offerTtl = .ok Flow.quartersBefore :=
    Timestamp.plus_eq_ok_iff.mpr rfl
  have hkey : Settings.sample.issuerKey = Jwk.ofKeyPair (.ofByte 0) := rfl
  obtain ⟨offer, hprepare, hend⟩ : ∃ offer,
      Offers.prepareFresh (.ofClock .epoch) .sample (.ofByte 1) Flow.hourBefore = .ok offer ∧
        offer.preview.expirationDate = Flow.quartersBefore :=
    ⟨_, Offers.prepareFresh_eq_ok_iff.mpr
      ⟨_, _, Jwk.publicKey_ofKeyPair (.ofByte 0), hplus, rfl⟩, rfl⟩
  obtain ⟨credential, hissue⟩ : ∃ credential,
      Offers.issue (.ofClock .epoch) .sample offer = .ok credential :=
    ⟨_, Offers.issue_of_issuer hkey (Offers.issuer_of_prepareFresh hkey hprepare)⟩
  have hkeeps := Offers.keepsOffer_of_prepareFresh (Toolkit.identifies_ofClock .epoch) hprepare
  obtain ⟨hlast, hlives⟩ := Offers.livesThrough_of_issue hkeeps.issuer hissue
  rw [hend] at hlast hlives
  have hanswer : ((Operation.issueDirect (.ofByte 1)).perform (.ofClock .epoch) .sample
      Flow.hourBefore (Stores.empty.afterTurns .sample [])).1 = .credential (.ok credential) := by
    rw [Operation.perform, Offers.issueDirect_of_prepareFresh hprepare, hissue]
  have hyear := hlives.mp (h .sample [] (.issueDirect (.ofByte 1)) Flow.hourBefore .epoch
    Flow.quartersBefore credential (by decide) (by decide) (List.forall_mem_nil _) hanswer hlast
    (by decide))
  revert hyear
  decide

end WalletCredentials
