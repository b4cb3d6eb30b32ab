import WalletCredentials.Proofs.DidDocument
import WalletCredentials.Proofs.Exchange.Refusal

/-!
# What the stores hold

A store keeps a key, a value and a time apart, and lets a value be changed in place. In every run
the three agree all the same: an offer stands under its own identifier through the end of its
credential, and a request stands under its own challenge as it was handed out last.

## Implementation notes

The steps of a run have toolkits of their own here, which may fail, break down or come to no end at
any step. All that is asked of them is that an identifier that they do make of a key is the right
one.
-/

namespace WalletCredentials

open Ed25519

/-- Tells that a toolkit makes no wrong identifier of a key. -/
def Toolkit.Identifies (toolkit : Toolkit) : Prop :=
  ∀ key did, toolkit.keyToDid DidKey.methodName key = .done (.ok did) →
    DidKey.ofJwk DidKey.methodName key = .ok did

/-! ## Offers -/

/-- Tells that an entry of the store is what a server with given settings keeps under an
identifier. -/
structure Settings.KeepsOffer (settings : Settings) (id : String)
    (entry : Registry.Entry CredentialOffer) : Prop where
  id_eq : entry.value.preview.id = id
  issuer : ∃ did, DidKey.ofJwk DidKey.methodName settings.issuerKey = .ok did ∧
    entry.value.preview.issuer = did.text
  type_eq : entry.value.type = "CredentialOffer"
  previewType_eq : entry.value.preview.type = "VerifiableCredential"
  context_eq : entry.value.preview.context =
    ["https://www.w3.org/2018/credentials/v1", "https://schema.org/"]
  /-- The credential is valid for the lifetime of offers. -/
  expirationDate : entry.value.preview.issuanceDate.plus settings.offerTtl =
    .ok entry.value.preview.expirationDate
  expiry_eq : entry.expiry = entry.value.preview.expirationDate
  subject_ne : entry.value.preview.subject ≠ some ""

namespace Settings.KeepsOffer

variable {settings : Settings} {id subject : String}

/-- A fresh offer by the issuer that the settings have. -/
theorem between {issuer : Did} {first last : Timestamp}
    (hissuer : DidKey.ofJwk DidKey.methodName settings.issuerKey = .ok issuer)
    (hlast : first.plus settings.offerTtl = .ok last) (expires : String) :
    settings.KeepsOffer id ⟨.between id issuer first last expires, last⟩ :=
  ⟨rfl, ⟨issuer, hissuer, rfl⟩, rfl, rfl, rfl, hlast, rfl, nofun⟩

/-- A subject that is bound changes nothing else. -/
theorem bind {entry : Registry.Entry CredentialOffer} (h : settings.KeepsOffer id entry)
    (hsubject : subject ≠ "") :
    settings.KeepsOffer id { entry with value := entry.value.bind subject } :=
  ⟨h.id_eq, h.issuer, h.type_eq, h.previewType_eq, h.context_eq, h.expirationDate, h.expiry_eq,
    fun hempty => hsubject (Option.some.inj hempty)⟩

end Settings.KeepsOffer

/-- Tells that a store holds nothing but what a server with given settings keeps. -/
def OfferStore.IsKeptBy (store : OfferStore) (settings : Settings) : Prop :=
  ∀ id entry, store.stored? id = some entry → settings.KeepsOffer id entry

namespace OfferStore.IsKeptBy

variable {store : OfferStore} {settings : Settings}

theorem empty : OfferStore.IsKeptBy ∅ settings := by
  intro id entry h
  cases h

theorem set {id : String} {entry : Registry.Entry CredentialOffer} (h : store.IsKeptBy settings)
    (hentry : settings.KeepsOffer id entry) :
    OfferStore.IsKeptBy (store.set id entry) settings := by
  intro key entry' hkey
  rw [Registry.stored?_set] at hkey
  split at hkey
  · rename_i heq
    cases hkey
    exact heq ▸ hentry
  · exact h key entry' hkey

theorem evict (h : store.IsKeptBy settings) (now : Timestamp) :
    OfferStore.IsKeptBy (store.evict now).2 settings := by
  intro key entry hkey
  rw [Registry.stored?_evict] at hkey
  exact h key entry (Registry.live?_eq_some_iff.mp hkey).1

end OfferStore.IsKeptBy

namespace Offers

variable {toolkit : Toolkit} {settings : Settings} {now : Timestamp} {offer : CredentialOffer}

theorem keyToDid_of_didOf {key : Jwk} {did : Did} (h : didOf toolkit key = .ok did) :
    toolkit.keyToDid DidKey.methodName key = .done (.ok did) :=
  Outcome.value_eq_ok_iff.mp h

/-- An offer that is prepared is one that the settings keep. -/
theorem keepsOffer_of_unlock (htoolkit : toolkit.Identifies) {id expires supplied : String}
    (h : unlock toolkit settings id expires supplied now = .ok offer) :
    settings.KeepsOffer offer.id ⟨offer, offer.preview.expirationDate⟩ := by
  simp only [unlock, prepare, bind_eq_ok_iff, orInternal_eq_ok_iff,
    CredentialOffer.create_eq_ok_iff] at h
  obtain ⟨-, -, issuer, hissuer, last, hlast, rfl⟩ := h
  exact .between (htoolkit _ _ (keyToDid_of_didOf hissuer)) hlast expires

/-- So is the offer of a fresh identifier. -/
theorem keepsOffer_of_prepareFresh (htoolkit : toolkit.Identifies) {fresh : KeyPair}
    (h : prepareFresh toolkit settings fresh now = .ok offer) :
    settings.KeepsOffer offer.id ⟨offer, offer.preview.expirationDate⟩ := by
  simp only [prepareFresh, prepareDirect, bind_eq_ok_iff, orInternal_eq_ok_iff,
    CredentialOffer.create_eq_ok_iff] at h
  obtain ⟨id, -, issuer, hissuer, -, -, last, hlast, rfl⟩ := h
  exact .between (htoolkit _ _ (keyToDid_of_didOf hissuer)) hlast _

end Offers

/-- No operation puts anything into the store of offers but what the settings keep. -/
theorem Operation.isKeptBy_perform {toolkit : Toolkit} {settings : Settings} {stores : Stores}
    (operation : Operation) (now : Timestamp) (htoolkit : toolkit.Identifies)
    (h : stores.offers.IsKeptBy settings) :
    OfferStore.IsKeptBy (operation.perform toolkit settings now stores).2.offers settings := by
  cases operation with
  | createToken fresh => exact h
  | redeem id expires supplied =>
      cases hunlock : Offers.unlock toolkit settings id expires supplied now with
      | error e =>
          simp only [perform, Offers.redeem_of_unlock_error hunlock]
          exact h
      | ok offer =>
          simp only [perform, Offers.redeem_of_unlock hunlock]
          exact h.set (Offers.keepsOffer_of_unlock htoolkit hunlock)
  | bindAndIssue id subject =>
      rcases Offers.bindAndIssue_cases toolkit settings id subject now stores.offers with
        ⟨e, -, hstep⟩ | ⟨entry, hsubject, -, hlive, hstep⟩
      · simp only [perform, hstep]
        exact h
      · simp only [perform, hstep]
        exact h.set ((h id entry (Registry.live?_eq_some_iff.mp hlive).1).bind hsubject)
  | issueDirect fresh =>
      cases hprepare : Offers.prepareFresh toolkit settings fresh now with
      | error e =>
          simp only [perform, Offers.issueDirect_of_prepareFresh_error hprepare]
          exact h
      | ok offer =>
          simp only [perform, Offers.issueDirect_of_prepareFresh hprepare]
          exact h.set (Offers.keepsOffer_of_prepareFresh htoolkit hprepare)
  | createRequest challenge domain => exact h
  | verifyPresentation challenge text domain => exact h
  | sweep => exact h.evict now

/-! ## Runs -/

/-- A step of a run with a toolkit of its own. -/
structure Turn where
  operation : Operation
  now : Timestamp
  toolkit : Toolkit

namespace Turn

/-- Performs a step. -/
def perform (settings : Settings) (stores : Stores) (turn : Turn) : Answer × Stores :=
  turn.operation.perform turn.toolkit settings turn.now stores

/-- Tells that a step hands out a request with a challenge, to be answered through the expiry of an
entry, and that the request is the value of the entry. -/
structure HandsOut (settings : Settings) (challenge : String)
    (entry : Registry.Entry SignInRequest) (turn : Turn) : Prop where
  operation : turn.operation = .createRequest challenge entry.value.domain
  answer : ∀ stores, (turn.perform settings stores).1 = .request (.ok entry.value)
  expiry : turn.now.plus settings.requestTtl = .ok entry.expiry

variable {settings : Settings} {stores : Stores} {turn : Turn}

/-- A request that is handed out has the challenge that it is handed out with. -/
theorem HandsOut.challenge_eq {challenge : String} {entry : Registry.Entry SignInRequest}
    (h : turn.HandsOut settings challenge entry) : entry.value.challenge = challenge := by
  have hanswer := h.answer .empty
  simp only [perform, h.operation, Operation.perform, SignIn.createRequest, h.expiry,
    Answer.request.injEq, Except.ok.injEq] at hanswer
  rw [← hanswer]
  rfl

/-- Where an entry of the requests comes from: the step has handed its request out, or it stood
there before and the step has handed out no request with its challenge. -/
theorem request_entry_cases {challenge : String} {entry : Registry.Entry SignInRequest}
    (h : (turn.perform settings stores).2.requests.stored? challenge = some entry) :
    turn.HandsOut settings challenge entry ∨
      (∀ other, ¬turn.HandsOut settings challenge other) ∧
        stores.requests.stored? challenge = some entry := by
  obtain ⟨operation, now, toolkit⟩ := turn
  cases operation with
  | createRequest c domain =>
      cases hlast : now.plus settings.requestTtl with
      | error e =>
          simp only [perform, Operation.perform, SignIn.createRequest, hlast] at h
          refine .inr ⟨fun other hother => ?_, h⟩
          have hexpiry := hother.expiry
          rw [hlast] at hexpiry
          cases hexpiry
      | ok last =>
          simp only [perform, Operation.perform, SignIn.createRequest, hlast,
            Registry.stored?_put] at h
          by_cases hc : c = challenge
          · subst hc
            rw [if_pos rfl, Option.some.injEq] at h
            subst h
            refine .inl ⟨rfl, fun stores => ?_, hlast⟩
            simp only [perform, Operation.perform, SignIn.createRequest, hlast]
          · rw [if_neg hc] at h
            refine .inr ⟨fun other hother => ?_, h⟩
            have hoperation := hother.operation
            rw [Operation.createRequest.injEq] at hoperation
            exact hc hoperation.1
  | sweep =>
      have hentry : Registry.stored? (stores.requests.evict now).2 challenge = some entry := h
      rw [Registry.stored?_evict] at hentry
      refine .inr ⟨fun other hother => ?_, (Registry.live?_eq_some_iff.mp hentry).1⟩
      cases hother.operation
  | _ =>
      refine .inr ⟨fun other hother => ?_, h⟩
      cases hother.operation

end Turn

namespace Stores

/-- The stores after the steps of a run, performed in turn with their toolkits. -/
def afterTurns (settings : Settings) (stores : Stores) (turns : List Turn) : Stores :=
  turns.foldl (fun stores turn => (turn.perform settings stores).2) stores

variable {settings : Settings} {stores : Stores} {turns : List Turn}

/-- What the store of offers holds after a run is what the settings keep. -/
theorem isKeptBy_afterTurns (h : stores.offers.IsKeptBy settings)
    (htoolkits : ∀ turn ∈ turns, turn.toolkit.Identifies) :
    OfferStore.IsKeptBy (stores.afterTurns settings turns).offers settings := by
  induction turns generalizing stores with
  | nil => exact h
  | cons turn turns ih =>
      obtain ⟨hturn, hrest⟩ := List.forall_mem_cons.mp htoolkits
      apply ih _ hrest
      exact turn.operation.isKeptBy_perform turn.now hturn h

/-- Every request in the store was put there by the last step that handed one out with its
challenge. -/
theorem exists_handsOut_of_entry {challenge : String} {entry : Registry.Entry SignInRequest}
    (h : Registry.stored? (empty.afterTurns settings turns).requests challenge = some entry) :
    ∃ before turn after, turns = before ++ turn :: after ∧
      turn.HandsOut settings challenge entry ∧
      ∀ later ∈ after, ∀ other, ¬later.HandsOut settings challenge other := by
  apply exists_origin_of_foldl (fun stores : Stores =>
    stores.requests.stored? challenge = some entry) _ _ h
  · intro hempty
    cases hempty
  · intro stores turn hentry
    exact Turn.request_entry_cases hentry

/-- Tells that stores are well formed after the steps of a run. -/
structure IsWellFormed (stores : Stores) (settings : Settings) (turns : List Turn) : Prop where
  /-- An offer is one that the settings keep under its key. -/
  offers : ∀ id entry, stores.offers.stored? id = some entry → settings.KeepsOffer id entry
  /-- A request is the one that was handed out last with its key as the challenge. -/
  requests : ∀ challenge entry, stores.requests.stored? challenge = some entry →
    entry.value.challenge = challenge ∧ ∃ before turn after, turns = before ++ turn :: after ∧
      turn.HandsOut settings challenge entry ∧
      ∀ later ∈ after, ∀ other, ¬later.HandsOut settings challenge other

/-- The stores of a run are well formed, whatever is asked for and at whatever times, as long as
the toolkits make no wrong identifiers. -/
theorem isWellFormed_afterTurns (htoolkits : ∀ turn ∈ turns, turn.toolkit.Identifies) :
    (empty.afterTurns settings turns).IsWellFormed settings turns where
  offers := isKeptBy_afterTurns OfferStore.IsKeptBy.empty htoolkits
  requests challenge entry h := by
    obtain ⟨before, turn, after, hturns, hhands, hafter⟩ := exists_handsOut_of_entry h
    exact ⟨hhands.challenge_eq, before, turn, after, hturns, hhands, hafter⟩

end Stores

/-- The toolkit for identifiers of keys, whose issuing comes to no end. -/
def Toolkit.stuck : Toolkit := { ofClock .epoch with issueCredential := fun _ _ _ => .unending }

/-- What prepares an offer leaves the issuing aside. -/
theorem Offers.prepareFresh_stuck (settings : Settings) (fresh : KeyPair) (now : Timestamp) :
    prepareFresh .stuck settings fresh now = prepareFresh (.ofClock .epoch) settings fresh now :=
  rfl

/-- An offer whose credential is given up for lack of time is kept, well formed. -/
theorem Stores.isWellFormed_after_timeout :
    let turns : List Turn := [⟨.issueDirect (.ofByte 1), .epoch, .stuck⟩]
    let id := (DidKey.ofPublicKey (KeyPair.ofByte 1).publicKey).text
    (∀ turn ∈ turns, turn.toolkit.Identifies) ∧
      ∃ entry, Registry.stored? (empty.afterTurns .sample turns).offers id = some entry ∧
        Settings.sample.KeepsOffer id entry := by
  intro turns id
  have htoolkits : ∀ turn ∈ turns, turn.toolkit.Identifies := by
    intro turn hturn key did hdid
    rw [List.mem_singleton.mp hturn] at hdid
    exact Outcome.done.inj hdid
  obtain ⟨offer, hprepare, hid⟩ : ∃ offer,
      Offers.prepareFresh .stuck .sample (.ofByte 1) .epoch = .ok offer ∧ offer.id = id := by
    rw [Offers.prepareFresh_stuck]
    exact ⟨_, Offers.prepareFresh_eq_ok_iff.mpr
      ⟨_, .afterEpoch, Jwk.publicKey_ofKeyPair (.ofByte 0), Timestamp.epoch_plus, rfl⟩, rfl⟩
  have hentry : Registry.stored? (empty.afterTurns .sample turns).offers id =
      some ⟨offer, offer.preview.expirationDate⟩ := by
    simp only [afterTurns, turns, List.foldl_cons, List.foldl_nil, Turn.perform,
      Operation.perform, Offers.issueDirect_of_prepareFresh hprepare, Offers.keep,
      Registry.stored?_put, hid, if_pos]
  exact ⟨htoolkits, _, hentry, (isWellFormed_afterTurns htoolkits).offers id _ hentry⟩

end WalletCredentials
