import WalletCredentials.Proofs.Offer.Service
import WalletCredentials.Proofs.Timestamp.Addition
import WalletCredentials.SignIn.Service

/-!
# Runs of the services

A run is a list of operations, each at a time of its own and with a clock of its own for the
toolkit. What a step can do to an entry of the stores is said once here: an entry is new, or
it stood there before, or a subject was bound to it. What holds along every run is derived
from that by induction on the run.
-/

namespace WalletCredentials

/-- What the services can be asked to do. -/
inductive Operation
  /-- Makes an offer token for the identifier of a fresh key. -/
  | createToken (fresh : Ed25519.KeyPair)
  /-- Hands in the three texts of an offer token. -/
  | redeem (id expires supplied : String)
  /-- Binds a subject to an offer and issues its credential. -/
  | bindAndIssue (id subject : String)
  /-- Issues a credential without a subject. -/
  | issueDirect (fresh : Ed25519.KeyPair)
  /-- Hands out a sign-in request with a challenge. -/
  | createRequest (challenge domain : String)
  /-- Answers a sign-in request with a presentation. -/
  | verifyPresentation (challenge text domain : String)
  /-- Takes out of the stores what may no longer be used. -/
  | sweep

/-- A step of a run: an operation and the time at which it is performed. -/
structure Event where
  operation : Operation
  now : Timestamp
  /-- The clock of the toolkit. -/
  clock : Timestamp

/-- What a step comes to. -/
inductive Answer
  | token (result : Except ExchangeError OfferToken)
  | offer (result : Except ExchangeError CredentialOffer)
  | credential (result : Except ExchangeError Json)
  | request (result : Except ExchangeError SignInRequest)
  | verdict (result : Except ExchangeError Unit)
  | swept (report : SweepReport)

namespace Event

/-- The toolkit of a step. -/
def toolkit (event : Event) : Toolkit := .ofClock event.clock

/-- Performs a step. -/
def perform (settings : Settings) (stores : Stores) (event : Event) : Answer × Stores :=
  match event.operation with
  | .createToken fresh =>
      (.token (Offers.createToken event.toolkit settings fresh event.now), stores)
  | .redeem id expires supplied =>
      let step := Offers.redeem event.toolkit settings id expires supplied event.now stores.offers
      (.offer step.1, { stores with offers := step.2 })
  | .bindAndIssue id subject =>
      let step := Offers.bindAndIssue event.toolkit settings id subject event.now stores.offers
      (.credential step.1, { stores with offers := step.2 })
  | .issueDirect fresh =>
      let step := Offers.issueDirect event.toolkit settings fresh event.now stores.offers
      (.credential step.1, { stores with offers := step.2 })
  | .createRequest challenge domain =>
      let step := SignIn.createRequest settings challenge domain event.now stores.requests
      (.request step.1, { stores with requests := step.2 })
  | .verifyPresentation challenge text domain =>
      (.verdict (SignIn.verifyPresentation event.toolkit challenge text domain event.now
        stores.requests), stores)
  | .sweep =>
      let step := stores.sweep event.now
      (.swept step.1, step.2)

/-- The offer that a step puts into the store, in place of an earlier one under its
identifier. -/
def kept? (settings : Settings) (event : Event) : Option CredentialOffer :=
  match event.operation with
  | .redeem id expires supplied =>
      (Offers.unlock event.toolkit settings id expires supplied event.now).toOption
  | .issueDirect fresh => (Offers.prepareFresh event.toolkit settings fresh event.now).toOption
  | _ => none

/-- Tells that a step puts an offer under an identifier into the store. -/
def Keeps (settings : Settings) (id : String) (event : Event) : Prop :=
  ∃ offer, event.kept? settings = some offer ∧ offer.id = id

/-- The entry that a step puts into the store of requests, with its challenge. -/
def requested? (settings : Settings) (event : Event) :
    Option (Registry.Entry SignInRequest) :=
  match event.operation with
  | .createRequest challenge domain =>
      (event.now.plus settings.requestTtl).toOption.map fun last =>
        ⟨.signIn challenge domain, last⟩
  | _ => none

/-- Tells that a step hands out a request with a challenge. -/
def Requests (settings : Settings) (challenge : String) (event : Event) : Prop :=
  ∃ entry, event.requested? settings = some entry ∧ entry.value.challenge = challenge

end Event

namespace Event

variable {settings : Settings} {stores : Stores} {event : Event}

/-! ## One step -/

theorem kept?_redeem_eq_some_iff {id expires supplied : String} {now clock : Timestamp}
    {offer : CredentialOffer} :
    kept? settings ⟨.redeem id expires supplied, now, clock⟩ = some offer ↔
      Offers.unlock (.ofClock clock) settings id expires supplied now = .ok offer :=
  toOption_eq_some_iff

theorem kept?_issueDirect_eq_some_iff {fresh : Ed25519.KeyPair} {now clock : Timestamp}
    {offer : CredentialOffer} :
    kept? settings ⟨.issueDirect fresh, now, clock⟩ = some offer ↔
      Offers.prepareFresh (.ofClock clock) settings fresh now = .ok offer :=
  toOption_eq_some_iff

theorem requested?_createRequest_of_plus {challenge domain : String} {now clock last : Timestamp}
    (h : now.plus settings.requestTtl = .ok last) :
    requested? settings ⟨.createRequest challenge domain, now, clock⟩ =
      some ⟨.signIn challenge domain, last⟩ := by
  simp only [requested?, h, Except.toOption, Option.map_some]

/-- A step that keeps an offer puts it into the store under the identifier that it states. -/
theorem offers_perform_of_kept {offer : CredentialOffer} (h : event.kept? settings = some offer) :
    (event.perform settings stores).2.offers = Offers.keep stores.offers offer.id offer := by
  obtain ⟨operation, now, clock⟩ := event
  cases operation with
  | redeem id expires supplied =>
      have hunlock := toOption_eq_some_iff.mp h
      simp only [perform, Offers.redeem_of_unlock hunlock]
  | issueDirect fresh =>
      have hprepare := toOption_eq_some_iff.mp h
      simp only [perform, Offers.issueDirect_of_prepareFresh hprepare]
  | _ => cases h

theorem stored?_perform_of_kept (stores : Stores) {offer : CredentialOffer}
    (h : event.kept? settings = some offer) :
    (event.perform settings stores).2.offers.stored? offer.id =
      some ⟨offer, offer.preview.expirationDate⟩ := by
  rw [offers_perform_of_kept h, Offers.keep, Registry.stored?_put, if_pos rfl]

/-- A step that keeps no offer binds a subject, sweeps or leaves the offers alone. -/
theorem offers_perform_of_kept_eq_none (h : event.kept? settings = none) :
    (event.perform settings stores).2.offers =
      match event.operation with
      | .bindAndIssue id subject =>
          if subject = "" ∨ id = "" then stores.offers
          else (stores.offers.update id event.now (CredentialOffer.bind subject)).2
      | .sweep => (stores.offers.evict event.now).2
      | _ => stores.offers := by
  obtain ⟨operation, now, clock⟩ := event
  cases operation with
  | redeem id expires supplied =>
      obtain ⟨e, hunlock⟩ := exists_error_of_toOption h
      simp only [perform, Offers.redeem_of_unlock_error hunlock]
  | issueDirect fresh =>
      obtain ⟨e, hprepare⟩ := exists_error_of_toOption h
      simp only [perform, Offers.issueDirect_of_prepareFresh_error hprepare]
  | bindAndIssue id subject => simp only [perform, Offers.snd_bindAndIssue]
  | createToken fresh => rfl
  | createRequest challenge domain => rfl
  | verifyPresentation challenge text domain => rfl
  | sweep => rfl

/-- A redemption keeps the offer that it answers with. -/
theorem redeem_answer_eq_iff {id expires supplied : String} {offer : CredentialOffer}
    (h : event.operation = .redeem id expires supplied) :
    (event.perform settings stores).1 = .offer (.ok offer) ↔ event.kept? settings = some offer := by
  obtain ⟨operation, now, clock⟩ := event
  subst h
  rw [kept?, toOption_eq_some_iff]
  cases hunlock : Offers.unlock (toolkit ⟨.redeem id expires supplied, now, clock⟩) settings id
      expires supplied now with
  | ok offer' => simp only [perform, Offers.redeem_of_unlock hunlock, Answer.offer.injEq]
  | error e => simp only [perform, Offers.redeem_of_unlock_error hunlock, Answer.offer.injEq]

/-- Where an entry of the offers comes from: the step has put it there, or it stood there
before and at most a subject was bound to it. -/
theorem offer_entry_cases {key : String} {entry : Registry.Entry CredentialOffer}
    (h : (event.perform settings stores).2.offers.stored? key = some entry) :
    (∃ offer, event.kept? settings = some offer ∧ offer.id = key ∧
      entry = ⟨offer, offer.preview.expirationDate⟩) ∨
    (¬event.Keeps settings key ∧ ∃ value, stores.offers.stored? key = some ⟨value, entry.expiry⟩ ∧
      (entry.value = value ∨ ∃ subject, event.operation = .bindAndIssue key subject ∧
        subject ≠ "" ∧ entry.value = value.bind subject)) := by
  cases hkept : event.kept? settings with
  | some offer =>
      rw [offers_perform_of_kept hkept, Offers.keep, Registry.stored?_put] at h
      by_cases hid : offer.id = key
      · rw [if_pos hid, Option.some.injEq] at h
        exact .inl ⟨offer, rfl, hid, h.symm⟩
      · rw [if_neg hid] at h
        refine .inr ⟨?_, entry.value, h, .inl rfl⟩
        rintro ⟨offer', hkept', hid'⟩
        rw [hkept, Option.some.injEq] at hkept'
        exact hid (hkept' ▸ hid')
  | none =>
      have hkeeps : ¬event.Keeps settings key := by
        rintro ⟨offer, hkept', -⟩
        rw [hkept] at hkept'
        cases hkept'
      refine .inr ⟨hkeeps, ?_⟩
      rw [offers_perform_of_kept_eq_none hkept] at h
      split at h
      · rename_i id subject hoperation
        split at h
        · exact ⟨entry.value, h, .inl rfl⟩
        rename_i hne
        rw [Registry.stored?_update] at h
        split at h
        · rename_i hkey
          obtain ⟨⟨value, expiry⟩, hentry, rfl⟩ := Option.map_eq_some_iff.mp h
          refine ⟨value, hentry, .inr ⟨subject, ?_, fun h0 => hne (.inl h0), rfl⟩⟩
          rw [hoperation, hkey.1]
        · exact ⟨entry.value, h, .inl rfl⟩
      · rw [Registry.stored?_evict] at h
        exact ⟨entry.value, (Registry.live?_eq_some_iff.mp h).1, .inl rfl⟩
      · exact ⟨entry.value, h, .inl rfl⟩

/-- A step that hands out a request keeps it under its challenge. -/
theorem requests_perform_of_requested {entry : Registry.Entry SignInRequest}
    (h : event.requested? settings = some entry) :
    (event.perform settings stores).2.requests =
      stores.requests.set entry.value.challenge entry := by
  obtain ⟨operation, now, clock⟩ := event
  cases operation with
  | createRequest challenge domain =>
      obtain ⟨last, hlast, rfl⟩ := Option.map_eq_some_iff.mp h
      have hplus := toOption_eq_some_iff.mp hlast
      simp only [perform, SignIn.createRequest, hplus]
      rfl
  | _ => cases h

theorem stored?_perform_of_requested (stores : Stores) {entry : Registry.Entry SignInRequest}
    {key : String} (h : event.requested? settings = some entry)
    (hkey : entry.value.challenge = key) :
    (event.perform settings stores).2.requests.stored? key = some entry := by
  rw [requests_perform_of_requested h, Registry.stored?_set, if_pos hkey]

/-- A step that hands out no request sweeps or leaves the requests alone. -/
theorem requests_perform_of_requested_eq_none (h : event.requested? settings = none) :
    (event.perform settings stores).2.requests =
      match event.operation with
      | .sweep => (stores.requests.evict event.now).2
      | _ => stores.requests := by
  obtain ⟨operation, now, clock⟩ := event
  cases operation with
  | createRequest challenge domain =>
      obtain ⟨e, hplus⟩ := exists_error_of_toOption (Option.map_eq_none_iff.mp h)
      simp only [perform, SignIn.createRequest, hplus]
  | createToken fresh => rfl
  | redeem id expires supplied => rfl
  | bindAndIssue id subject => rfl
  | issueDirect fresh => rfl
  | verifyPresentation challenge text domain => rfl
  | sweep => rfl

/-- Where an entry of the requests comes from: the step has put it there, or it stood there
before. -/
theorem request_entry_cases {key : String} {entry : Registry.Entry SignInRequest}
    (h : (event.perform settings stores).2.requests.stored? key = some entry) :
    (event.requested? settings = some entry ∧ entry.value.challenge = key) ∨
    (¬event.Requests settings key ∧ stores.requests.stored? key = some entry) := by
  cases hrequested : event.requested? settings with
  | some entry' =>
      rw [requests_perform_of_requested hrequested, Registry.stored?_set] at h
      by_cases hkey : entry'.value.challenge = key
      · rw [if_pos hkey, Option.some.injEq] at h
        exact .inl ⟨congrArg some h, h ▸ hkey⟩
      · rw [if_neg hkey] at h
        refine .inr ⟨?_, h⟩
        rintro ⟨e, he, hkey'⟩
        rw [hrequested, Option.some.injEq] at he
        exact hkey (he ▸ hkey')
  | none =>
      have hnot : ¬event.Requests settings key := by
        rintro ⟨e, he, -⟩
        rw [hrequested] at he
        cases he
      rw [requests_perform_of_requested_eq_none hrequested] at h
      split at h
      · rw [Registry.stored?_evict] at h
        exact .inr ⟨hnot, (Registry.live?_eq_some_iff.mp h).1⟩
      · exact .inr ⟨hnot, h⟩

end Event

/-! ## Runs -/

/-- What holds after steps but did not before leads back to the last step that brought it about. -/
theorem exists_origin_of_foldl {σ ε : Type} {perform : σ → ε → σ} (holds : σ → Prop)
    {origin rest : ε → Prop} {start : σ} {steps : List ε} (hstart : ¬holds start)
    (hstep : ∀ state step, holds (perform state step) → origin step ∨ rest step ∧ holds state)
    (h : holds (steps.foldl perform start)) :
    ∃ before step after, steps = before ++ step :: after ∧ origin step ∧ ∀ s ∈ after, rest s := by
  induction steps using List.reverseRecOn with
  | nil => exact absurd h hstart
  | append_singleton steps step ih =>
      rw [List.foldl_concat] at h
      rcases hstep _ step h with horigin | ⟨hrest, hbefore⟩
      · exact ⟨steps, step, [], rfl, horigin, by simp⟩
      · obtain ⟨before, step', after, rfl, horigin, hafter⟩ := ih hbefore
        refine ⟨before, step', after ++ [step], by simp, horigin, ?_⟩
        intro s hs
        rcases List.mem_append.mp hs with hs | hs
        · exact hafter s hs
        · rw [List.mem_singleton.mp hs]
          exact hrest

namespace Stores

variable {settings : Settings} {stores : Stores}

/-- The stores after the steps of a run, performed in turn. -/
def after (settings : Settings) (stores : Stores) (events : List Event) : Stores :=
  events.foldl (fun stores event => (event.perform settings stores).2) stores

theorem after_append (events events' : List Event) :
    stores.after settings (events ++ events') = (stores.after settings events).after settings events' :=
  List.foldl_append

theorem after_cons (event : Event) (events : List Event) :
    stores.after settings (event :: events) =
      (event.perform settings stores).2.after settings events :=
  rfl

theorem after_concat (events : List Event) (event : Event) :
    stores.after settings (events ++ [event]) =
      (event.perform settings (stores.after settings events)).2 := by
  rw [after_append]
  rfl

/-- What the steps of a run preserve holds after the run. -/
theorem after_of_preserved (holds : Stores → Prop) {events : List Event}
    (hstep : ∀ event ∈ events, ∀ stores, holds stores → holds (event.perform settings stores).2)
    (h : holds stores) : holds (stores.after settings events) := by
  induction events generalizing stores with
  | nil => exact h
  | cons event events ih =>
      obtain ⟨hevent, hrest⟩ := List.forall_mem_cons.mp hstep
      rw [after_cons]
      exact ih hrest (hevent stores h)

/-- What holds after a run but not of the empty stores leads back to the last step that
brought it about. -/
theorem exists_origin (holds : Stores → Prop) {origin rest : Event → Prop} {events : List Event}
    (hempty : ¬holds empty)
    (hstep : ∀ stores event, holds (event.perform settings stores).2 →
      origin event ∨ rest event ∧ holds stores)
    (h : holds (empty.after settings events)) :
    ∃ before event after, events = before ++ event :: after ∧ origin event ∧
      ∀ e ∈ after, rest e :=
  exists_origin_of_foldl holds hempty hstep h

/-- Every request in the store was put there by the last step that handed one out with its
challenge. -/
theorem exists_requested_of_entry {events : List Event} {key : String}
    {entry : Registry.Entry SignInRequest}
    (h : (empty.after settings events).requests.stored? key = some entry) :
    ∃ before event after, events = before ++ event :: after ∧
      (event.requested? settings = some entry ∧ entry.value.challenge = key) ∧
      ∀ e ∈ after, ¬e.Requests settings key := by
  refine exists_origin (fun stores => stores.requests.stored? key = some entry) ?_ ?_ h
  · intro hempty
    cases hempty
  · intro stores event hentry
    exact Event.request_entry_cases hentry

end Stores

/-! ## A small server -/

/-- The key pair whose seed is one byte over and over. -/
def Ed25519.KeyPair.ofByte (byte : UInt8) : KeyPair := ⟨List.replicate 32 byte, by simp⟩

/-- The settings of a server with the usual lifetimes. -/
def Settings.sample : Settings := .standard ⟨[1], by decide⟩ (.ofKeyPair (.ofByte 0))

/-- The start of the year 1970. -/
def Timestamp.epoch : Timestamp := ⟨0, false, by decide, nofun⟩

/-- A quarter of an hour after the start of the year 1970. -/
def Timestamp.afterEpoch : Timestamp := ⟨900, false, by decide, nofun⟩

theorem Timestamp.epoch_plus : epoch.plus Settings.sample.offerTtl = .ok afterEpoch :=
  plus_eq_ok_iff.mpr rfl

end WalletCredentials
