import WalletCredentials.Proofs.Exchange.Authorisation

/-!
# What a refusal leaves behind

An operation that is refused before it writes to a store leaves the stores as they were. But
an offer is written before its credential is issued, so that a subject stays bound and a fresh
offer stays kept where the issuing fails. This is the only way in which a refusal changes a
store, and it does not occur in a run whose issuer can sign.

## Implementation notes

The steps of a run have the toolkit for identifiers of keys, which never breaks down. Here an
operation is performed with any toolkit, so that every refusal can come about.
-/

namespace WalletCredentials

open Ed25519

/-- Why an operation is refused, if it is. -/
def Answer.refusal? : Answer → Option ExchangeError
  | .token (.error e) | .offer (.error e) | .credential (.error e) | .request (.error e)
  | .verdict (.error e) => some e
  | _ => none

theorem Answer.refusal?_offer_eq_some_iff {result : Except ExchangeError CredentialOffer}
    {e : ExchangeError} : (Answer.offer result).refusal? = some e ↔ result = .error e := by
  cases result with
  | ok offer => simp [refusal?]
  | error e' => simp [refusal?]

theorem Answer.refusal?_verdict_eq_some_iff {result : Except ExchangeError Unit}
    {e : ExchangeError} : (Answer.verdict result).refusal? = some e ↔ result = .error e := by
  cases result with
  | ok accepted => simp [refusal?]
  | error e' => simp [refusal?]

theorem Answer.refusal?_credential_eq_some_iff {result : Except ExchangeError Json}
    {e : ExchangeError} : (Answer.credential result).refusal? = some e ↔ result = .error e := by
  cases result with
  | ok credential => simp [refusal?]
  | error e' => simp [refusal?]

namespace Offers

variable {toolkit : Toolkit} {settings : Settings} {id expires supplied : String}
variable {now : Timestamp} {store : OfferStore}

/-- A redemption that is refused writes nothing. -/
theorem snd_redeem_of_error {e : ExchangeError}
    (h : (redeem toolkit settings id expires supplied now store).1 = .error e) :
    (redeem toolkit settings id expires supplied now store).2 = store := by
  cases hunlock : unlock toolkit settings id expires supplied now with
  | ok offer =>
      rw [redeem_of_unlock hunlock] at h
      cases h
  | error e' => rw [redeem_of_unlock_error hunlock]

end Offers

/-- A request that is refused is not kept. -/
theorem SignIn.snd_createRequest_of_error {settings : Settings} {challenge domain : String}
    {now : Timestamp} {store : RequestStore} {e : ExchangeError}
    (h : (createRequest settings challenge domain now store).1 = .error e) :
    (createRequest settings challenge domain now store).2 = store := by
  rw [createRequest] at h ⊢
  split
  · rename_i hlast
    rw [hlast] at h
    cases h
  · rfl

/-- The settings of a server that has only the public half of its key. -/
def Settings.publicHalf : Settings :=
  { Settings.sample with issuerKey := .ofPublicKey (KeyPair.ofByte 0).publicKey }

namespace Operation

/-- Performs an operation with a toolkit. -/
def perform (toolkit : Toolkit) (settings : Settings) (now : Timestamp) (stores : Stores) :
    Operation → Answer × Stores
  | .createToken fresh => (.token (Offers.createToken toolkit settings fresh now), stores)
  | .redeem id expires supplied =>
      let step := Offers.redeem toolkit settings id expires supplied now stores.offers
      (.offer step.1, { stores with offers := step.2 })
  | .bindAndIssue id subject =>
      let step := Offers.bindAndIssue toolkit settings id subject now stores.offers
      (.credential step.1, { stores with offers := step.2 })
  | .issueDirect fresh =>
      let step := Offers.issueDirect toolkit settings fresh now stores.offers
      (.credential step.1, { stores with offers := step.2 })
  | .createRequest challenge domain =>
      let step := SignIn.createRequest settings challenge domain now stores.requests
      (.request step.1, { stores with requests := step.2 })
  | .verifyPresentation challenge text domain =>
      (.verdict (SignIn.verifyPresentation toolkit challenge text domain now stores.requests),
        stores)
  | .sweep =>
      let step := stores.sweep now
      (.swept step.1, step.2)

/-- Tells that an operation writes an entry under an identifier and then fails to issue the
credential of the offer in it. -/
inductive FailsToIssue (toolkit : Toolkit) (settings : Settings) (now : Timestamp)
    (store : OfferStore) (e : ExchangeError) :
    Operation → String → Registry.Entry CredentialOffer → Prop
  /-- A subject is bound to a live offer. -/
  | bound {id subject : String} {entry : Registry.Entry CredentialOffer} :
      subject ≠ "" → id ≠ "" → store.live? id now = some entry →
      Offers.issue toolkit settings (entry.value.bind subject) = .error e →
      FailsToIssue toolkit settings now store e (.bindAndIssue id subject) id
        { entry with value := entry.value.bind subject }
  /-- The offer of a fresh identifier is kept. -/
  | kept {fresh : KeyPair} {offer : CredentialOffer} :
      Offers.prepareFresh toolkit settings fresh now = .ok offer →
      Offers.issue toolkit settings offer = .error e →
      FailsToIssue toolkit settings now store e (.issueDirect fresh) offer.id
        ⟨offer, offer.preview.expirationDate⟩

variable {toolkit : Toolkit} {settings : Settings} {now : Timestamp} {stores : Stores}
variable {operation : Operation} {e : ExchangeError} {id : String}
variable {entry : Registry.Entry CredentialOffer}

/-- An operation that fails to issue is refused for that reason, with its entry written. -/
theorem perform_of_failsToIssue
    (h : operation.FailsToIssue toolkit settings now stores.offers e id entry) :
    operation.perform toolkit settings now stores =
      (.credential (.error e), { stores with offers := stores.offers.set id entry }) := by
  cases h with
  | bound hsubject hid hlive hissue =>
      obtain ⟨hentry, hnow⟩ := Registry.live?_eq_some_iff.mp hlive
      simp only [perform, Offers.bindAndIssue_of_live hsubject hid hentry hnow, hissue]
  | kept hprepare hissue =>
      simp only [perform, Offers.issueDirect_of_prepareFresh hprepare, hissue]
      rfl

/-- What an operation that is refused does to the stores: nothing, unless it fails to issue. -/
theorem refusal_cases (h : (operation.perform toolkit settings now stores).1.refusal? = some e) :
    (operation.perform toolkit settings now stores).2 = stores ∨
      ∃ id entry, operation.FailsToIssue toolkit settings now stores.offers e id entry := by
  -- Only the two operations that issue can be refused after their write.
  cases operation with
  | createToken fresh => exact .inl rfl
  | verifyPresentation challenge text domain => exact .inl rfl
  | sweep => cases h
  | redeem id expires supplied =>
      left
      have hresult := Answer.refusal?_offer_eq_some_iff.mp h
      simp only [perform, Offers.snd_redeem_of_error hresult]
  | createRequest challenge domain =>
      left
      cases hresult : (SignIn.createRequest settings challenge domain now stores.requests).1 with
      | ok request =>
          simp only [perform, hresult] at h
          cases h
      | error e' => simp only [perform, SignIn.snd_createRequest_of_error hresult]
  | bindAndIssue id subject =>
      rcases Offers.bindAndIssue_cases toolkit settings id subject now stores.offers with
        ⟨e', -, hstep⟩ | ⟨entry, hsubject, hid, hlive, hstep⟩
      · exact .inl (by simp only [perform, hstep])
      · simp only [perform, hstep] at h
        exact .inr ⟨id, _, .bound hsubject hid hlive (Answer.refusal?_credential_eq_some_iff.mp h)⟩
  | issueDirect fresh =>
      cases hprepare : Offers.prepareFresh toolkit settings fresh now with
      | ok offer =>
          simp only [perform, Offers.issueDirect_of_prepareFresh hprepare] at h
          exact .inr ⟨offer.id, _, .kept hprepare (Answer.refusal?_credential_eq_some_iff.mp h)⟩
      | error e' =>
          exact .inl (by simp only [perform, Offers.issueDirect_of_prepareFresh_error hprepare])

/-- A refusal changes the stores exactly if a credential could not be issued for an offer that
did not stand in the store as it was to be issued. Then this offer is the whole change. -/
theorem refused_and_changed_iff :
    ((operation.perform toolkit settings now stores).1.refusal? = some e ∧
      (operation.perform toolkit settings now stores).2 ≠ stores) ↔
    ∃ id entry, operation.FailsToIssue toolkit settings now stores.offers e id entry ∧
      stores.offers.stored? id ≠ some entry ∧
      (operation.perform toolkit settings now stores).2 =
        { stores with offers := stores.offers.set id entry } := by
  constructor
  · rintro ⟨hrefusal, hchanged⟩
    obtain ⟨id, entry, hfails⟩ := (refusal_cases hrefusal).resolve_left hchanged
    rw [perform_of_failsToIssue hfails] at hchanged ⊢
    refine ⟨id, entry, hfails, ?_, rfl⟩
    intro hentry
    exact hchanged (by rw [Registry.set_eq_self_iff.mpr hentry])
  · rintro ⟨id, entry, hfails, hentry, -⟩
    rw [perform_of_failsToIssue hfails]
    refine ⟨rfl, ?_⟩
    intro hstores
    exact hentry (Registry.set_eq_self_iff.mp (congrArg Stores.offers hstores))

/-- A server that has only the public half of its key keeps the offers of the credentials that
it cannot issue. -/
theorem failsToIssue_of_publicKey {clock last : Timestamp} {key : PublicKey} {fresh : KeyPair}
    (hkey : settings.issuerKey = Jwk.ofPublicKey key)
    (hlast : now.plus settings.offerTtl = .ok last) (store : OfferStore) :
    ∃ offer, (issueDirect fresh).FailsToIssue (.ofClock clock) settings now store
      (.issuanceFailed "invalid key: missing private key") offer.id
        ⟨offer, offer.preview.expirationDate⟩ := by
  have hpublic : settings.issuerKey.publicKey = .ok key := hkey ▸ Jwk.publicKey_eq_ok_iff.mpr rfl
  refine ⟨_, .kept (Offers.prepareFresh_eq_ok_iff.mpr ⟨key, last, hpublic, hlast, rfl⟩) ?_⟩
  simp only [Offers.issue, CredentialOffer.between, Did.read_text, hkey]
  rfl

theorem changed_by_refused_issuance :
    let step := (issueDirect (.ofByte 1)).perform (.ofClock .epoch) .publicHalf .epoch .empty
    step.1.refusal? = some (.issuanceFailed "invalid key: missing private key") ∧
      step.2 ≠ .empty := by
  have hlast : Timestamp.epoch.plus Settings.publicHalf.offerTtl = .ok .afterEpoch :=
    Timestamp.epoch_plus
  obtain ⟨offer, hfails⟩ : ∃ offer, (issueDirect (.ofByte 1)).FailsToIssue (.ofClock .epoch)
      .publicHalf .epoch Stores.empty.offers (.issuanceFailed "invalid key: missing private key")
      offer.id ⟨offer, offer.preview.expirationDate⟩ :=
    failsToIssue_of_publicKey rfl hlast Stores.empty.offers
  refine refused_and_changed_iff.mpr ⟨offer.id, _, hfails, nofun, ?_⟩
  rw [perform_of_failsToIssue hfails]

end Operation

/-! ## Runs whose issuer can sign -/

/-- The offer of a fresh identifier states the issuer that signs. -/
theorem Offers.issuer_of_prepareFresh {settings : Settings} {pair fresh : KeyPair}
    {now clock : Timestamp} {offer : CredentialOffer}
    (hkey : settings.issuerKey = Jwk.ofKeyPair pair)
    (h : prepareFresh (.ofClock clock) settings fresh now = .ok offer) :
    offer.preview.issuer = (DidKey.ofPublicKey pair.publicKey).text := by
  obtain ⟨key, last, hpublic, -, rfl⟩ := prepareFresh_eq_ok_iff.mp h
  rw [← Jwk.eq_publicKey hkey hpublic]
  rfl

theorem Event.perform_eq (settings : Settings) (stores : Stores) (event : Event) :
    event.perform settings stores =
      event.operation.perform event.toolkit settings event.now stores := by
  obtain ⟨operation, now, clock⟩ := event
  cases operation <;> rfl

namespace Stores

variable {settings : Settings} {events : List Event}

/-- Every offer that a run keeps states the configured issuer. -/
theorem issuer_of_entry {id : String} {entry : Registry.Entry CredentialOffer}
    (h : (empty.after settings events).offers.stored? id = some entry) :
    ∃ key, settings.issuerKey.publicKey = .ok key ∧
      entry.value.preview.issuer = (DidKey.ofPublicKey key).text := by
  obtain ⟨before, event, after, -, ⟨offer, hkept, -, -, hvalue⟩, -⟩ := exists_kept_of_entry h
  obtain ⟨-, key, last, expires, hkey, -, hoffer⟩ := Event.kept?_eq_some hkept
  have hissuer : offer.preview.issuer = (DidKey.ofPublicKey key).text := by
    rw [hoffer]
    rfl
  refine ⟨key, hkey, ?_⟩
  rcases hvalue with hvalue | ⟨subject, hvalue⟩
  · rw [hvalue, hissuer]
  · rw [hvalue, ← hissuer]
    rfl

/-- Every offer that a run keeps states the issuer that signs. -/
theorem issuer_of_entry_of_keyPair {pair : KeyPair} {id : String}
    {entry : Registry.Entry CredentialOffer} (hkey : settings.issuerKey = Jwk.ofKeyPair pair)
    (h : (empty.after settings events).offers.stored? id = some entry) :
    entry.value.preview.issuer = (DidKey.ofPublicKey pair.publicKey).text := by
  obtain ⟨key, hpublic, hissuer⟩ := issuer_of_entry h
  rw [hissuer, Jwk.eq_publicKey hkey hpublic]

/-- No step of a run whose issuer can sign fails to issue. -/
theorem not_failsToIssue {pair : KeyPair} {operation : Operation} {now clock : Timestamp}
    {e : ExchangeError} {id : String} {entry : Registry.Entry CredentialOffer}
    (hkey : settings.issuerKey = Jwk.ofKeyPair pair) :
    ¬operation.FailsToIssue (.ofClock clock) settings now (empty.after settings events).offers e id
      entry := by
  intro h
  cases h with
  | @bound id subject entry hsubject hid hlive hissue =>
      have hbound : (entry.value.bind subject).preview.issuer =
          (DidKey.ofPublicKey pair.publicKey).text :=
        issuer_of_entry_of_keyPair hkey (Registry.live?_eq_some_iff.mp hlive).1
      rw [Offers.issue_of_issuer hkey hbound] at hissue
      cases hissue
  | kept hprepare hissue =>
      rw [Offers.issue_of_issuer hkey (Offers.issuer_of_prepareFresh hkey hprepare)] at hissue
      cases hissue

/-- Where the issuer can sign, a step that is refused leaves the stores of a run as they were. -/
theorem perform_of_refusal {pair : KeyPair} {event : Event} {e : ExchangeError}
    (hkey : settings.issuerKey = Jwk.ofKeyPair pair)
    (h : (event.perform settings (empty.after settings events)).1.refusal? = some e) :
    (event.perform settings (empty.after settings events)).2 = empty.after settings events := by
  rw [Event.perform_eq] at h ⊢
  refine (Operation.refusal_cases h).resolve_right ?_
  rintro ⟨id, entry, hfails⟩
  exact not_failsToIssue hkey hfails

end Stores

end WalletCredentials
