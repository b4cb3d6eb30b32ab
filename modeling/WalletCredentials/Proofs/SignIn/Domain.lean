import WalletCredentials.Proofs.SignIn.Presentation

/-!
# The domain of a request

A request is kept with the domain that it was handed out for, but an answer to it is only
compared with the domain that is given along with the answer. So two runs that differ in
nothing but the domains of their requests cannot be told apart by any answer.
-/

namespace WalletCredentials

open Ed25519

/-- The request without its domain. -/
def SignInRequest.withoutDomain (request : SignInRequest) : SignInRequest :=
  { request with domain := "" }

/-- The entry of a request without the domain of the request. -/
def Registry.Entry.withoutDomain (entry : Registry.Entry SignInRequest) :
    Registry.Entry SignInRequest :=
  { entry with value := entry.value.withoutDomain }

theorem Registry.Entry.challenge_withoutDomain (entry : Registry.Entry SignInRequest) :
    entry.withoutDomain.value.challenge = entry.value.challenge := rfl

namespace Event

/-- The step without the domain that it hands out a request for. -/
def withoutDomain (event : Event) : Event :=
  match event.operation with
  | .createRequest challenge _ => { event with operation := .createRequest challenge "" }
  | _ => event

variable {settings : Settings} {stores stores' : Stores} {event : Event} {key : String}

theorem requested?_withoutDomain :
    event.withoutDomain.requested? settings =
      (event.requested? settings).map Registry.Entry.withoutDomain := by
  obtain ⟨operation, now, clock⟩ := event
  cases operation with
  | createRequest challenge domain =>
      simp only [withoutDomain, requested?, Option.map_map]
      rfl
  | _ => rfl

/-- A step that hands out a request hands it out for the domain that it names. -/
theorem operation_of_requested {entry : Registry.Entry SignInRequest}
    (h : event.requested? settings = some entry) :
    event.operation = .createRequest entry.value.challenge entry.value.domain := by
  obtain ⟨operation, now, clock⟩ := event
  cases operation with
  | createRequest challenge domain =>
      obtain ⟨last, -, rfl⟩ := Option.map_eq_some_iff.mp h
      rfl
  | _ => cases h

/-- A step without its domain does to the requests without their domains what the step does
to the requests. -/
theorem request_entry_withoutDomain
    (h : ∀ key, stores'.requests.stored? key =
      (stores.requests.stored? key).map Registry.Entry.withoutDomain) :
    (event.withoutDomain.perform settings stores').2.requests.stored? key =
      ((event.perform settings stores).2.requests.stored? key).map
        Registry.Entry.withoutDomain := by
  have hrequested : event.withoutDomain.requested? settings =
      (event.requested? settings).map Registry.Entry.withoutDomain := requested?_withoutDomain
  cases hevent : event.requested? settings with
  | some entry =>
      rw [hevent, Option.map_some] at hrequested
      rw [requests_perform_of_requested hevent, requests_perform_of_requested hrequested,
        Registry.stored?_set, Registry.stored?_set, h key, entry.challenge_withoutDomain]
      by_cases hkey : entry.value.challenge = key
      · rw [if_pos hkey, if_pos hkey, Option.map_some]
      · rw [if_neg hkey, if_neg hkey]
  | none =>
      rw [hevent, Option.map_none] at hrequested
      rw [requests_perform_of_requested_eq_none hevent,
        requests_perform_of_requested_eq_none hrequested]
      obtain ⟨operation, now, clock⟩ := event
      cases operation with
      | sweep =>
          simp only [withoutDomain, Registry.stored?_evict, Registry.live?, h key,
            Option.filter_map]
          rfl
      | _ => exact h key

end Event

namespace Stores

variable {settings : Settings} {events : List Event} {key : String}

/-- A run without the domains keeps the requests of the run without their domains. -/
theorem request_entry_after_withoutDomain :
    (empty.after settings (events.map Event.withoutDomain)).requests.stored? key =
      ((empty.after settings events).requests.stored? key).map Registry.Entry.withoutDomain := by
  induction events using List.reverseRecOn generalizing key with
  | nil => rfl
  | append_singleton events event ih =>
      rw [List.map_append, List.map_singleton, after_concat, after_concat]
      exact Event.request_entry_withoutDomain fun key => ih

end Stores

namespace Proof

/-- What is found in a presentation depends on the challenge that is expected, and on nothing
else of the request. -/
theorem verifyPresentation_congr {presentation : Json} {request request' : Option SignInRequest}
    {domain : String} (h : request.map (·.challenge) = request'.map (·.challenge)) :
    verifyPresentation presentation (.authentication request domain) =
      verifyPresentation presentation (.authentication request' domain) := by
  have hfindings : ∀ answer, challengeFindings (.authentication request domain) answer =
      challengeFindings (.authentication request' domain) answer := by
    intro answer
    simp only [challengeFindings, VerifyOptions.challenge?, VerifyOptions.authentication, h]
  simp only [verifyPresentation, presentationFindings, hfindings]
  rfl

end Proof

namespace SignIn

variable {settings : Settings} {events events' : List Event}
variable {challenge text domain : String} {now clock : Timestamp}

theorem verifyPresentation_congr {store store' : RequestStore}
    (h : (store.get? challenge now).map (·.challenge) =
      (store'.get? challenge now).map (·.challenge)) :
    verifyPresentation (.ofClock clock) challenge text domain now store =
      verifyPresentation (.ofClock clock) challenge text domain now store' := by
  have hresult : ∀ presentation,
      (Toolkit.ofClock clock).verifyPresentation presentation
          (.authentication (store.get? challenge now) domain) =
        (Toolkit.ofClock clock).verifyPresentation presentation
          (.authentication (store'.get? challenge now) domain) := fun presentation =>
    congrArg (Outcome.done <| .ok ·) (Proof.verifyPresentation_congr h)
  simp only [verifyPresentation, hresult]
  rfl

/-- A run and the run without its domains keep the same challenges. -/
theorem get?_after_withoutDomain :
    ((Stores.empty.after settings (events.map Event.withoutDomain)).requests.get? challenge
        now).map (·.challenge) =
      ((Stores.empty.after settings events).requests.get? challenge now).map (·.challenge) := by
  simp only [Registry.get?, Registry.live?, Stores.request_entry_after_withoutDomain,
    Option.filter_map, Option.map_map]
  rfl

/-- What an answer comes to does not depend on the domains that requests were handed out
for. -/
theorem verifyPresentation_of_map_withoutDomain
    (h : events'.map Event.withoutDomain = events.map Event.withoutDomain) :
    verifyPresentation (.ofClock clock) challenge text domain now
        (Stores.empty.after settings events').requests =
      verifyPresentation (.ofClock clock) challenge text domain now
        (Stores.empty.after settings events).requests :=
  calc
    _ = verifyPresentation (.ofClock clock) challenge text domain now
        (Stores.empty.after settings (events'.map Event.withoutDomain)).requests :=
      verifyPresentation_congr get?_after_withoutDomain.symm
    _ = verifyPresentation (.ofClock clock) challenge text domain now
        (Stores.empty.after settings (events.map Event.withoutDomain)).requests := by rw [h]
    _ = _ := verifyPresentation_congr get?_after_withoutDomain

/-- An accepted answer is signed for the domain that is given along with it. The request that
it answers may have been handed out for another: the same answer is accepted in every run that
differs in nothing but the domains of the requests, and the signed domain is that of the
request exactly if the given one is. -/
theorem domain_of_verifyPresentation
    (h : verifyPresentation (.ofClock clock) challenge text domain now
      (Stores.empty.after settings events).requests = .ok ()) :
    ∃ before event after entry members proof, events = before ++ event :: after ∧
      event.operation = .createRequest challenge entry.value.domain ∧
      (∀ e ∈ after, ¬e.Requests settings challenge) ∧
      (Stores.empty.after settings events).requests.stored? challenge = some entry ∧
      now ≤ entry.expiry ∧
      Json.read? text = some (.object members) ∧
      Dictionary.find? "proof" members = some (.object proof) ∧
      (Json.object proof).text? "domain" = some domain ∧
      ((Json.object proof).text? "domain" = some entry.value.domain ↔
        domain = entry.value.domain) ∧
      ∀ events', events'.map Event.withoutDomain = events.map Event.withoutDomain →
        verifyPresentation (.ofClock clock) challenge text domain now
          (Stores.empty.after settings events').requests = .ok () := by
  obtain ⟨-, members, request, key, credential, hread, hrequest, hanswer, -, -⟩ :=
    verifyPresentation_eq_ok_iff_get?.mp h
  obtain ⟨expiry, hentry, hnow⟩ := Registry.get?_eq_some_iff.mp hrequest
  obtain ⟨before, event, after, hevents, ⟨hrequested, hchallenge⟩, hafter⟩ :=
    Stores.exists_requested_of_entry hentry
  obtain ⟨proof, hvalid, hdomain, -⟩ := hanswer.signed
  have hoperation := Event.operation_of_requested hrequested
  rw [hchallenge] at hoperation
  refine ⟨before, event, after, _, members, proof, hevents, hoperation, hafter, hentry, hnow, hread,
    hvalid.attached, hdomain, ?_, ?_⟩
  · rw [hdomain, Option.some.injEq]
  · intro events' hsame
    rw [verifyPresentation_of_map_withoutDomain hsame, h]

/-- A holder can answer a request that was handed out for one domain by signing for another. -/
theorem verifyPresentation_after_createRequest {requested : String} {holder : KeyPair}
    {credential : Json} {first last clock' created : Timestamp} (hchallenge : challenge ≠ "")
    (hlast : first.plus settings.requestTtl = .ok last) (hnow : now ≤ last)
    (hsurvives : Json.Survives 2 credential)
    (hcredential : IsCredentialOf (DidKey.ofPublicKey holder.publicKey).text clock credential) :
    verifyPresentation (.ofClock clock) challenge
      (presentationText created [] holder credential challenge domain) domain now
      (Stores.empty.after settings
        [⟨.createRequest challenge requested, first, clock'⟩]).requests = .ok () := by
  have hentry : (Stores.empty.after settings [⟨.createRequest challenge requested, first,
      clock'⟩]).requests.stored? challenge = some ⟨.signIn challenge requested, last⟩ :=
    Event.stored?_perform_of_requested .empty (Event.requested?_createRequest_of_plus hlast) rfl
  have hrequest := Registry.get?_eq_some_iff.mpr ⟨last, hentry, hnow⟩
  exact verifyPresentation_presentationText hchallenge hrequest rfl .nil (by simp) (.inl rfl)
    hsurvives hcredential

/-- A credential that the small server has issued to a holder. -/
def sampleCredential : Json :=
  let issuer := DidKey.ofPublicKey (KeyPair.ofByte 0).publicKey
  let holder := DidKey.ofPublicKey (KeyPair.ofByte 2).publicKey
  let offer := CredentialOffer.between "did:example:card" issuer .epoch .afterEpoch ""
  .object (Proof.withProof .epoch (offer.bind holder.text).preview.members (.assertion issuer)
    (.ofByte 0))

theorem same_answer_for_two_domains :
    ∃ text, ∀ requested ∈ ["shop.example", "bank.example"],
      verifyPresentation (.ofClock .epoch) "challenge" text "bank.example" .epoch
        (Stores.empty.after .sample
          [⟨.createRequest "challenge" requested, .epoch, .epoch⟩]).requests = .ok () := by
  have hcredential :
      IsCredentialOf (DidKey.ofPublicKey (KeyPair.ofByte 2).publicKey).text .epoch
        sampleCredential :=
    isCredentialOf_withProof rfl rfl (by decide) (by decide)
  have h : verifyPresentation (.ofClock .epoch) "challenge"
      (presentationText .epoch [] (.ofByte 2) sampleCredential "challenge" "bank.example")
      "bank.example" .epoch (Stores.empty.after .sample
        [⟨.createRequest "challenge" "shop.example", .epoch, .epoch⟩]).requests = .ok () :=
    verifyPresentation_after_createRequest (by decide) Timestamp.epoch_plus (by decide)
      (CredentialPreview.survives_withProof _ _ _ _) hcredential
  obtain ⟨_, _, _, _, _, _, _, _, _, _, _, _, _, _, _, hsame⟩ := domain_of_verifyPresentation h
  exact ⟨_, fun requested _ => hsame _ rfl⟩

end SignIn

end WalletCredentials
