import WalletCredentials.Proofs.Exchange.Run
import WalletCredentials.Proofs.SignIn.Presentation
import WalletCredentials.SignIn.Challenge

/-!
# Honest flows

An offer is minted, redeemed and bound to a holder, and the holder signs in with the
credential that it is given. Each of these steps succeeds if it comes in time, whatever is
done in between under other identifiers and other challenges.
-/

namespace WalletCredentials

open Ed25519

/-! ## Other steps -/

/-- Tells that a step names neither an identifier nor a challenge. -/
def Event.IsForeign (id challenge : String) (event : Event) : Prop :=
  match event.operation with
  | .redeem id' _ _ => id' ≠ id
  | .bindAndIssue id' _ => id' ≠ id
  | .issueDirect fresh => (DidKey.ofPublicKey fresh.publicKey).text ≠ id
  | .createRequest challenge' _ => challenge' ≠ challenge
  | .createToken _ | .verifyPresentation .. | .sweep => True

namespace Event

variable {settings : Settings} {stores : Stores} {event : Event} {id challenge : String}

theorem id_ne_of_isForeign {offer : CredentialOffer} (h : event.IsForeign id challenge)
    (hkept : event.kept? settings = some offer) : offer.id ≠ id := by
  obtain ⟨operation, now, clock⟩ := event
  cases operation with
  | redeem id' expires supplied =>
      rw [Offers.id_of_unlock (kept?_redeem_eq_some_iff.mp hkept)]
      exact h
  | issueDirect fresh =>
      obtain ⟨-, -, -, -, rfl⟩ :=
        Offers.prepareFresh_eq_ok_iff.mp (kept?_issueDirect_eq_some_iff.mp hkept)
      exact h
  | _ => cases hkept

theorem challenge_ne_of_isForeign {entry : Registry.Entry SignInRequest}
    (h : event.IsForeign id challenge) (hrequested : event.requested? settings = some entry) :
    entry.value.challenge ≠ challenge := by
  obtain ⟨operation, now, clock⟩ := event
  cases operation with
  | createRequest challenge' domain =>
      obtain ⟨last, -, rfl⟩ := Option.map_eq_some_iff.mp hrequested
      exact h
  | _ => cases hrequested

/-- A step that does not name the identifier of an offer leaves the offer in the store, at
least until its end. -/
theorem offer_entry_of_isForeign {entry : Registry.Entry CredentialOffer}
    (h : event.IsForeign id challenge) (hnow : event.now ≤ entry.expiry)
    (hentry : stores.offers.stored? id = some entry) :
    (event.perform settings stores).2.offers.stored? id = some entry := by
  cases hkept : event.kept? settings with
  | some offer =>
      rw [offers_perform_of_kept hkept, Offers.keep, Registry.stored?_put,
        if_neg (id_ne_of_isForeign h hkept)]
      exact hentry
  | none =>
      rw [offers_perform_of_kept_eq_none hkept]
      obtain ⟨operation, now, clock⟩ := event
      cases operation with
      | bindAndIssue id' subject =>
          simp only
          split
          · exact hentry
          · rw [Registry.stored?_update, if_neg fun hid => h hid.1]
            exact hentry
      | sweep =>
          simp only [Registry.stored?_evict]
          exact Registry.live?_eq_some_iff.mpr ⟨hentry, hnow⟩
      | _ => exact hentry

/-- A step that does not name the challenge of a request leaves the request in the store, at
least until its end. -/
theorem request_entry_of_isForeign {entry : Registry.Entry SignInRequest}
    (h : event.IsForeign id challenge) (hnow : event.now ≤ entry.expiry)
    (hentry : stores.requests.stored? challenge = some entry) :
    (event.perform settings stores).2.requests.stored? challenge = some entry := by
  cases hrequested : event.requested? settings with
  | some entry' =>
      rw [requests_perform_of_requested hrequested, Registry.stored?_set,
        if_neg (challenge_ne_of_isForeign h hrequested)]
      exact hentry
  | none =>
      rw [requests_perform_of_requested_eq_none hrequested]
      obtain ⟨operation, now, clock⟩ := event
      cases operation with
      | sweep =>
          simp only [Registry.stored?_evict]
          exact Registry.live?_eq_some_iff.mpr ⟨hentry, hnow⟩
      | _ => exact hentry

end Event

namespace Stores

variable {settings : Settings} {stores : Stores} {events : List Event} {id challenge : String}

/-- An offer outlasts the steps of others until its end. -/
theorem offer_entry_after {entry : Registry.Entry CredentialOffer}
    (h : ∀ event ∈ events, event.IsForeign id challenge ∧ event.now ≤ entry.expiry)
    (hentry : stores.offers.stored? id = some entry) :
    (stores.after settings events).offers.stored? id = some entry := by
  refine after_of_preserved (fun stores => stores.offers.stored? id = some entry) ?_ hentry
  intro event hevent stores hbefore
  obtain ⟨hforeign, hnow⟩ := h event hevent
  exact Event.offer_entry_of_isForeign hforeign hnow hbefore

/-- A request outlasts the steps of others until its end. -/
theorem request_entry_after {entry : Registry.Entry SignInRequest}
    (h : ∀ event ∈ events, event.IsForeign id challenge ∧ event.now ≤ entry.expiry)
    (hentry : stores.requests.stored? challenge = some entry) :
    (stores.after settings events).requests.stored? challenge = some entry := by
  refine after_of_preserved (fun stores => stores.requests.stored? challenge = some entry) ?_ hentry
  intro event hevent stores hbefore
  obtain ⟨hforeign, hnow⟩ := h event hevent
  exact Event.request_entry_of_isForeign hforeign hnow hbefore

/-- The answer to a step that is performed after others. -/
def answer (settings : Settings) (stores : Stores) (events : List Event) (event : Event) : Answer :=
  (event.perform settings (stores.after settings events)).1

end Stores

/-! ## Flows -/

/-- What an issuer, a holder and a verifier bring to a flow, the times at which they act, and
what is done in between. -/
structure Flow where
  /-- The key that the identifier of the offer is made for. -/
  fresh : KeyPair
  holder : KeyPair
  /-- The random bytes of the challenge. -/
  random : List UInt8
  domain : String
  /-- The members of the presentation apart from its holder and its credential. -/
  others : List (String × Json)
  /-- The clock of the toolkit that signs the credential. -/
  clock : Timestamp
  /-- The clock of the toolkit that signs the presentation. -/
  signed : Timestamp
  /-- The times of the steps. -/
  mint : Timestamp
  redeem : Timestamp
  bind : Timestamp
  request : Timestamp
  present : Timestamp
  /-- What is done after each of the steps. -/
  afterMint : List Event
  afterRedeem : List Event
  afterBind : List Event
  afterRequest : List Event

namespace Flow

variable {settings : Settings} {stores : Stores} {flow : Flow}

/-- The identifier of the offer. -/
def id (flow : Flow) : String := (DidKey.ofPublicKey flow.fresh.publicKey).text

/-- The identifier of the holder. -/
def did (flow : Flow) : Did := DidKey.ofPublicKey flow.holder.publicKey

/-- The challenge of the request. -/
def challenge (flow : Flow) : String := Challenge.ofBytes flow.random

/-- The step that makes the token of the offer. -/
def mintStep (flow : Flow) : Event := ⟨.createToken flow.fresh, flow.mint, flow.clock⟩

/-- The step that hands a token in as it was made. -/
def redeemStep (flow : Flow) (token : OfferToken) : Event :=
  ⟨.redeem token.id token.expires token.signature.text, flow.redeem, flow.clock⟩

/-- The step that binds the identifier of the holder to the offer of a token. -/
def bindStep (flow : Flow) (token : OfferToken) : Event :=
  ⟨.bindAndIssue token.id flow.did.text, flow.bind, flow.clock⟩

/-- The step that hands out the sign-in request. -/
def requestStep (flow : Flow) : Event :=
  ⟨.createRequest flow.challenge flow.domain, flow.request, flow.clock⟩

/-- The step that hands in the text of a presentation, checked at the time of the step. -/
def presentStep (flow : Flow) (request : SignInRequest) (presentation : Json) : Event :=
  ⟨.verifyPresentation request.challenge presentation.text flow.domain, flow.present, flow.present⟩

/-- What the holder signs for a request, around its credential. -/
def signedPresentation (flow : Flow) (request : SignInRequest) (wrapped : Json) :
    Except ToolkitError Json :=
  Proof.sign flow.signed (.object (SignIn.presentationMembers flow.others flow.did wrapped))
    (.authentication flow.did request.challenge flow.domain) (.ofKeyPair flow.holder)

/-- The run before the token is redeemed. -/
def beforeRedeem (flow : Flow) : List Event := flow.mintStep :: flow.afterMint

/-- The run before the holder is bound. -/
def beforeBind (flow : Flow) (token : OfferToken) : List Event :=
  flow.beforeRedeem ++ flow.redeemStep token :: flow.afterRedeem

/-- The run before the holder asks to sign in. -/
def beforeRequest (flow : Flow) (token : OfferToken) : List Event :=
  flow.beforeBind token ++ flow.bindStep token :: flow.afterBind

/-- The run before the holder answers. -/
def beforePresent (flow : Flow) (token : OfferToken) : List Event :=
  flow.beforeRequest token ++ flow.requestStep :: flow.afterRequest

/-- Tells that every step of a flow succeeds, each with what the steps before are answered
with, and the last one with the credential as it is and with a list of it. -/
def Succeeds (settings : Settings) (stores : Stores) (flow : Flow) : Prop :=
  ∃ token offer credential request,
    stores.answer settings [] flow.mintStep = .token (.ok token) ∧
    stores.answer settings flow.beforeRedeem (flow.redeemStep token) = .offer (.ok offer) ∧
    stores.answer settings (flow.beforeBind token) (flow.bindStep token) =
      .credential (.ok credential) ∧
    stores.answer settings (flow.beforeRequest token) flow.requestStep = .request (.ok request) ∧
    ∀ wrapped, SignIn.Wraps wrapped credential →
      ∃ presentation, flow.signedPresentation request wrapped = .ok presentation ∧
        stores.answer settings (flow.beforePresent token) (flow.presentStep request presentation) =
          .verdict (.ok ())

/-- The times of the steps of a flow and of what is done in between. -/
def times (flow : Flow) : List Timestamp :=
  flow.mint :: flow.afterMint.map (·.now) ++
    flow.redeem :: flow.afterRedeem.map (·.now) ++
    flow.bind :: flow.afterBind.map (·.now) ++
    flow.request :: flow.afterRequest.map (·.now) ++ [flow.present]

/-- What is done between the steps of a flow. -/
def between (flow : Flow) : List Event :=
  flow.afterMint ++ flow.afterRedeem ++ flow.afterBind ++ flow.afterRequest

/-- Tells that a flow is honest: its issuer can sign, its steps come in time and in order, and
what is done in between is foreign to it. The ends of its offer are to satisfy a condition. -/
structure IsHonest (condition : Timestamp → Prop) (settings : Settings) (flow : Flow) : Prop where
  can_sign : ∃ issuer, settings.issuerKey.keyPair = .ok issuer
  sorted : Dictionary.Sorted flow.others
  survives : ∀ m ∈ flow.others, Json.Survives 126 m.2
  ordered : flow.times.Pairwise (· ≤ ·)
  foreign : ∀ event ∈ flow.between, event.IsForeign flow.id flow.challenge
  redeemed_in_time : ∃ last, flow.mint.plus settings.offerTtl = .ok last ∧ condition last ∧
    flow.redeem ≤ last
  used_in_time : ∃ last, flow.redeem.plus settings.offerTtl = .ok last ∧ condition last ∧
    flow.bind ≤ last ∧ flow.present ≤ last
  answered_in_time : ∃ last, flow.request.plus settings.requestTtl = .ok last ∧
    flow.present ≤ last

theorem challenge_ne (flow : Flow) : flow.challenge ≠ "" := by
  rw [challenge, Challenge.ofBytes]
  generalize (flow.random.modify 6 (Challenge.marked 0x40 4)).modify 8 (Challenge.marked 0x80 6) =
    marked
  intro h
  have hlength := congrArg String.length h
  simp only [String.intercalate_cons_cons, String.length_append] at hlength
  simp at hlength

/-! ## The steps of an honest flow -/

theorem mintStep_answer {last : Timestamp} (hlast : flow.mint.plus settings.offerTtl = .ok last) :
    stores.answer settings [] flow.mintStep =
      .token (.ok (.sign settings.secret flow.id last.text)) :=
  congrArg Answer.token (Offers.createToken_eq_ok_iff.mpr ⟨last, hlast, rfl⟩)

/-- The offer that a token unlocks when it is redeemed in time. -/
theorem kept?_redeemStep {issuer : KeyPair} {last expiry : Timestamp}
    (hissuer : settings.issuerKey = Jwk.ofKeyPair issuer) (hyear : last.HasFourDigitYear)
    (hnow : flow.redeem ≤ last) (hexpiry : flow.redeem.plus settings.offerTtl = .ok expiry) :
    (flow.redeemStep (.sign settings.secret flow.id last.text)).kept? settings =
      some (.between flow.id (DidKey.ofPublicKey issuer.publicKey) flow.redeem expiry
        last.text) := by
  have hread := Timestamp.read_text hyear
  have hexpires : last.text ≠ "" := by
    rintro h
    rw [h] at hread
    cases hread
  refine Event.kept?_redeem_eq_some_iff.mpr (Offers.unlock_eq_ok_iff.mpr ⟨?_, ?_⟩)
  · exact OfferToken.check_eq_ok_iff.mpr
      ⟨Did.text_ne _, TokenSignature.text_ne _, hexpires, last, hread, hnow, rfl⟩
  · exact Offers.prepare_eq_ok_iff.mpr
      ⟨issuer.publicKey, expiry, hissuer ▸ Jwk.publicKey_ofKeyPair issuer, hexpiry, rfl⟩

theorem redeemStep_answer {events : List Event} {token : OfferToken} {offer : CredentialOffer}
    (h : (flow.redeemStep token).kept? settings = some offer) :
    stores.answer settings events (flow.redeemStep token) = .offer (.ok offer) :=
  (Event.redeem_answer_eq_iff rfl).mpr h

/-- The offer of a redeemed token still stands when the holder is bound. -/
theorem offer_entry_beforeBind (stores : Stores) {token : OfferToken} {offer : CredentialOffer}
    (hkept : (flow.redeemStep token).kept? settings = some offer) (hid : offer.id = flow.id)
    (hrest : ∀ event ∈ flow.afterRedeem, event.IsForeign flow.id flow.challenge ∧
      event.now ≤ offer.preview.expirationDate) :
    (stores.after settings (flow.beforeBind token)).offers.stored? flow.id =
      some ⟨offer, offer.preview.expirationDate⟩ := by
  rw [beforeBind, Stores.after_append, Stores.after_cons]
  exact Stores.offer_entry_after hrest (hid ▸ Event.stored?_perform_of_kept _ hkept)

/-- The credential that the holder is given. -/
def credential (flow : Flow) (issuer : KeyPair) (offer : CredentialOffer) : Json :=
  .object (Proof.withProof flow.clock (offer.bind flow.did.text).preview.members
    (.assertion (DidKey.ofPublicKey issuer.publicKey)) issuer)

theorem requestStep_answer {events : List Event} {last : Timestamp}
    (hlast : flow.request.plus settings.requestTtl = .ok last) :
    stores.answer settings events flow.requestStep =
      .request (.ok (.signIn flow.challenge flow.domain)) := by
  simp only [Stores.answer, requestStep, Event.perform, SignIn.createRequest, hlast]

/-- The request of the verifier still stands when the holder answers. -/
theorem request_entry_beforePresent {token : OfferToken} {last : Timestamp}
    (hlast : flow.request.plus settings.requestTtl = .ok last)
    (hrest : ∀ event ∈ flow.afterRequest, event.IsForeign flow.id flow.challenge ∧
      event.now ≤ last) :
    (stores.after settings (flow.beforePresent token)).requests.stored? flow.challenge =
      some ⟨.signIn flow.challenge flow.domain, last⟩ := by
  have hrequested : flow.requestStep.requested? settings =
      some ⟨.signIn flow.challenge flow.domain, last⟩ :=
    Event.requested?_createRequest_of_plus hlast
  rw [beforePresent, Stores.after_append, Stores.after_cons]
  exact Stores.request_entry_after hrest (Event.stored?_perform_of_requested _ hrequested rfl)

theorem bindStep_answer {events : List Event} {token : OfferToken} {issuer : KeyPair}
    {entry : Registry.Entry CredentialOffer} (hissuer : settings.issuerKey = Jwk.ofKeyPair issuer)
    (hstated : entry.value.preview.issuer = (DidKey.ofPublicKey issuer.publicKey).text)
    (hid : token.id = flow.id) (hlive : flow.bind ≤ entry.expiry)
    (hentry : (stores.after settings events).offers.stored? flow.id = some entry) :
    stores.answer settings events (flow.bindStep token) =
      .credential (.ok (flow.credential issuer entry.value)) := by
  have hne : token.id ≠ "" := hid ▸ Did.text_ne _
  exact congrArg Answer.credential (Offers.bindAndIssue_of_issuer hissuer hstated
    (Did.text_ne _) hne (hid ▸ hentry) hlive)

/-- An answer in time to a request that still stands is accepted. -/
theorem presentStep_answer {events : List Event} {credential wrapped : Json} {last : Timestamp}
    (hsorted : Dictionary.Sorted flow.others)
    (hothers : ∀ m ∈ flow.others, Json.Survives 126 m.2) (hwraps : SignIn.Wraps wrapped credential)
    (hsurvives : Json.Survives 2 credential)
    (hcredential : SignIn.IsCredentialOf flow.did.text flow.present credential)
    (hlive : flow.present ≤ last)
    (hentry : (stores.after settings events).requests.stored? flow.challenge =
      some ⟨.signIn flow.challenge flow.domain, last⟩) :
    let request := SignInRequest.signIn flow.challenge flow.domain
    ∃ presentation, flow.signedPresentation request wrapped = .ok presentation ∧
      stores.answer settings events (flow.presentStep request presentation) = .verdict (.ok ()) := by
  refine ⟨_, SignIn.sign_presentationMembers, congrArg Answer.verdict ?_⟩
  exact SignIn.verifyPresentation_presentationText flow.challenge_ne
    (Registry.get?_eq_some_iff.mpr ⟨last, hentry, hlive⟩) rfl hsorted hothers hwraps hsurvives
    hcredential

/-! ## The whole flow -/

variable {condition : Timestamp → Prop}

theorem IsHonest.le_bind (h : flow.IsHonest condition settings) :
    ∀ event ∈ flow.afterRedeem, event.now ≤ flow.bind := by
  intro event hevent
  obtain ⟨hpresent, -, -⟩ := List.pairwise_append.mp h.ordered
  obtain ⟨hrequest, -, -⟩ := List.pairwise_append.mp hpresent
  obtain ⟨-, -, hbind⟩ := List.pairwise_append.mp hrequest
  refine hbind _ (List.mem_append_right _ ?_) _ List.mem_cons_self
  exact List.mem_cons_of_mem _ (List.mem_map_of_mem hevent)

theorem IsHonest.le_present (h : flow.IsHonest condition settings) :
    ∀ event ∈ flow.afterRequest, event.now ≤ flow.present := by
  intro event hevent
  obtain ⟨-, -, hpresent⟩ := List.pairwise_append.mp h.ordered
  refine hpresent _ (List.mem_append_right _ ?_) _ (List.mem_singleton_self _)
  exact List.mem_cons_of_mem _ (List.mem_map_of_mem hevent)

/-- In whatever state the services are, every honest flow succeeds whose token and whose offer
end in years of four digits. -/
theorem succeeds_of_isHonest (stores : Stores)
    (h : flow.IsHonest Timestamp.HasFourDigitYear settings) : flow.Succeeds settings stores := by
  obtain ⟨issuer, hissuer⟩ := h.can_sign
  rw [Jwk.keyPair_eq_ok_iff] at hissuer
  obtain ⟨last, hlast, hyear, hredeem⟩ := h.redeemed_in_time
  obtain ⟨expiry, hexpiry, hyear', hbind, hpresent⟩ := h.used_in_time
  obtain ⟨deadline, hdeadline, hanswer⟩ := h.answered_in_time
  have hforeign := h.foreign
  simp only [between, List.forall_mem_append] at hforeign
  obtain ⟨⟨⟨-, hafterRedeem⟩, -⟩, hafterRequest⟩ := hforeign
  have hkept := kept?_redeemStep hissuer hyear hredeem hexpiry
  have hoffer := offer_entry_beforeBind stores hkept rfl fun event hevent =>
    ⟨hafterRedeem event hevent, (h.le_bind event hevent).trans hbind⟩
  refine ⟨_, _, _, _, mintStep_answer hlast, redeemStep_answer hkept,
    bindStep_answer hissuer rfl rfl hbind hoffer, requestStep_answer hdeadline, ?_⟩
  intro wrapped hwraps
  exact presentStep_answer h.sorted h.survives hwraps
    (CredentialPreview.survives_withProof _ _ _ _)
    (SignIn.isCredentialOf_withProof rfl rfl hyear' hpresent) hanswer
    (request_entry_beforePresent hdeadline fun event hevent =>
      ⟨hafterRequest event hevent, (h.le_present event hevent).trans hanswer⟩)

/-- A flow in which nothing takes time and the stores are swept between the steps. -/
def swept (time : Timestamp) : Flow where
  fresh := .ofByte 1
  holder := .ofByte 2
  random := List.replicate 16 0
  domain := "verifier.example"
  others := []
  clock := time
  signed := time
  mint := time
  redeem := time
  bind := time
  request := time
  present := time
  afterMint := [⟨.sweep, time, time⟩]
  afterRedeem := [⟨.sweep, time, time⟩]
  afterBind := [⟨.sweep, time, time⟩]
  afterRequest := [⟨.sweep, time, time⟩]

theorem isHonest_swept {time last : Timestamp}
    (hlast : time.plus (.ofSeconds quarterHour) = .ok last) (hcondition : condition last)
    (hle : time ≤ last) : (swept time).IsHonest condition .sample where
  can_sign := ⟨.ofByte 0, Jwk.keyPair_ofKeyPair _⟩
  sorted := .nil
  survives := by simp [swept]
  ordered := by simp [swept, times]
  foreign := by simp [swept, between, Event.IsForeign]
  redeemed_in_time := ⟨last, hlast, hcondition, hle⟩
  used_in_time := ⟨last, hlast, hcondition, hle, hle⟩
  answered_in_time := ⟨last, hlast, hle⟩

theorem succeeds_at_epoch :
    (swept .epoch).IsHonest Timestamp.HasFourDigitYear .sample ∧
      (swept .epoch).Succeeds .sample .empty := by
  have hyear : Timestamp.HasFourDigitYear .afterEpoch := by decide
  have h := isHonest_swept Timestamp.epoch_plus hyear (by decide)
  exact ⟨h, succeeds_of_isHonest .empty h⟩

/-- A token that ends in a year without four digits is refused by the server that made it. -/
theorem hasFourDigitYear_of_succeeds {last : Timestamp} (h : flow.Succeeds settings stores)
    (hlast : flow.mint.plus settings.offerTtl = .ok last) : last.HasFourDigitYear := by
  obtain ⟨token, offer, -, -, hmint, hredeem, -⟩ := h
  rw [mintStep_answer hlast, Answer.token.injEq, Except.ok.injEq] at hmint
  subst hmint
  have hkept := (Event.redeem_answer_eq_iff rfl).mp hredeem
  have hcheck := (Offers.unlock_eq_ok_iff.mp (Event.kept?_redeem_eq_some_iff.mp hkept)).1
  obtain ⟨-, -, -, stated, hread, -⟩ := OfferToken.check_eq_ok_iff.mp hcheck
  exact Timestamp.exists_read_text_iff.mp ⟨stated, hread⟩

/-- An hour before the year 0. -/
def hourBefore : Timestamp := ⟨-62167222800, false, by decide, nofun⟩

/-- Three quarters of an hour before the year 0. -/
def quartersBefore : Timestamp := ⟨-62167221900, false, by decide, nofun⟩

/-- That all ends lie before the year 10000 is not enough: before the year 0 the server refuses the
token that it has made itself. -/
theorem not_succeeds_before_year_zero :
    ¬∀ (settings : Settings) (flow : Flow),
      flow.IsHonest (fun last => last.date.year < 10000) settings →
      (∃ last, flow.request.plus settings.requestTtl = .ok last ∧ last.date.year < 10000) →
        flow.Succeeds settings .empty := by
  intro h
  have hlast : hourBefore.plus (.ofSeconds quarterHour) = .ok quartersBefore :=
    Timestamp.plus_eq_ok_iff.mpr rfl
  have hbefore : quartersBefore.date.year < 10000 := by decide
  have hhonest : (swept hourBefore).IsHonest (fun last => last.date.year < 10000) .sample :=
    isHonest_swept hlast hbefore (by decide)
  have hsucceeds := h .sample (swept hourBefore) hhonest ⟨quartersBefore, hlast, hbefore⟩
  have hyear : quartersBefore.HasFourDigitYear := hasFourDigitYear_of_succeeds hsucceeds hlast
  revert hyear
  decide

end Flow

end WalletCredentials
