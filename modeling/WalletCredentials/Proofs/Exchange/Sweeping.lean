import WalletCredentials.Proofs.Exchange.Authorisation
import WalletCredentials.Proofs.Exchange.HonestFlow

/-!
# Sweeping

Two runs that differ only in their sweeps are kept in step: the stores of the run with more sweeps
are what is left of those of the other run after used-up entries were taken out. No operation can
tell the two apart. Only a sweep reports what it takes out itself, and so reports in addition what
earlier sweeps would have taken out.
-/

namespace WalletCredentials

open Ed25519

/-! ## Two runs in step -/

/-- Tells that both stores are what is left of others after used-up entries were taken out. -/
structure Stores.IsRestOf (rest full : Stores) (now : Timestamp) : Prop where
  offers : rest.offers.IsRestOf full.offers now
  requests : rest.requests.IsRestOf full.requests now

section Steps

variable {settings : Settings} {rest full : Stores} {now : Timestamp}

namespace Stores.IsRestOf

theorem refl (stores : Stores) (now : Timestamp) : stores.IsRestOf stores now :=
  ⟨.refl _ _, .refl _ _⟩

theorem mono {later : Timestamp} (h : rest.IsRestOf full now) (hlater : now ≤ later) :
    rest.IsRestOf full later :=
  ⟨h.offers.mono hlater, h.requests.mono hlater⟩

theorem sweep (h : rest.IsRestOf full now) : (rest.sweep now).2.IsRestOf full now :=
  ⟨h.offers.evict, h.requests.evict⟩

theorem sweep_eq (h : rest.IsRestOf full now) : (rest.sweep now).2 = (full.sweep now).2 :=
  congrArg₂ Stores.mk h.offers.evict_eq h.requests.evict_eq

end Stores.IsRestOf

/-- Binding a subject does the same to a store as to its rest. -/
theorem Offers.bindAndIssue_of_isRestOf (toolkit : Toolkit) (settings : Settings)
    {rest full : OfferStore} (id subject : String) (h : rest.IsRestOf full now) :
    (bindAndIssue toolkit settings id subject now rest).1 =
        (bindAndIssue toolkit settings id subject now full).1 ∧
      (bindAndIssue toolkit settings id subject now rest).2.IsRestOf
        (bindAndIssue toolkit settings id subject now full).2 now := by
  refine ⟨fst_bindAndIssue_congr (h.live?_eq id), ?_⟩
  rw [snd_bindAndIssue, snd_bindAndIssue]
  split
  · exact h
  cases hlive : full.live? id now with
  | none =>
      rw [Registry.update_of_not_live _ hlive,
        Registry.update_of_not_live _ ((h.live?_eq id).trans hlive)]
      exact h
  | some entry =>
      rw [Registry.update_of_live _ hlive, Registry.update_of_live _ ((h.live?_eq id).trans hlive)]
      exact h.set _ _

/-- A check of a presentation finds the same in a store as in its rest. -/
theorem SignIn.verifyPresentation_of_isRestOf (toolkit : Toolkit) {rest full : RequestStore}
    (challenge text domain : String) (h : rest.IsRestOf full now) :
    verifyPresentation toolkit challenge text domain now rest =
      verifyPresentation toolkit challenge text domain now full := by
  simp only [verifyPresentation, h.get?_eq]

theorem Event.perform_of_sweep {stores : Stores} {event : Event}
    (h : event.operation = .sweep) :
    (event.perform settings stores).2 = (stores.sweep event.now).2 := by
  obtain ⟨operation, now, clock⟩ := event
  subst h
  rfl

/-- A step that is no sweep is answered in the same way, and leaves the stores in step. -/
theorem Event.perform_of_isRestOf {event : Event} (h : rest.IsRestOf full event.now)
    (hsweep : event.operation ≠ .sweep) :
    (event.perform settings rest).1 = (event.perform settings full).1 ∧
      (event.perform settings rest).2.IsRestOf (event.perform settings full).2 event.now := by
  obtain ⟨operation, now, clock⟩ := event
  cases operation with
  | createToken fresh => exact ⟨rfl, h⟩
  | redeem id expires supplied =>
      cases hunlock : Offers.unlock (.ofClock clock) settings id expires supplied now with
      | ok offer =>
          simp only [perform, toolkit, Offers.redeem_of_unlock hunlock]
          exact ⟨trivial, h.offers.set _ _, h.requests⟩
      | error e =>
          simp only [perform, toolkit, Offers.redeem_of_unlock_error hunlock]
          exact ⟨trivial, h⟩
  | bindAndIssue id subject =>
      obtain ⟨hanswer, hoffers⟩ :=
        Offers.bindAndIssue_of_isRestOf (.ofClock clock) settings id subject h.offers
      exact ⟨congrArg Answer.credential hanswer, hoffers, h.requests⟩
  | issueDirect fresh =>
      cases hprepare : Offers.prepareFresh (.ofClock clock) settings fresh now with
      | ok offer =>
          simp only [perform, toolkit, Offers.issueDirect_of_prepareFresh hprepare]
          exact ⟨trivial, h.offers.set _ _, h.requests⟩
      | error e =>
          simp only [perform, toolkit, Offers.issueDirect_of_prepareFresh_error hprepare]
          exact ⟨trivial, h⟩
  | createRequest challenge domain =>
      simp only [perform, SignIn.createRequest]
      split
      · exact ⟨rfl, h.offers, h.requests.set _ _⟩
      · exact ⟨rfl, h⟩
  | verifyPresentation challenge text domain =>
      exact ⟨congrArg Answer.verdict (SignIn.verifyPresentation_of_isRestOf _ _ _ _ h.requests), h⟩
  | sweep => exact absurd rfl hsweep

end Steps

/-! ## Runs with fewer sweeps -/

/-- Tells that a run is another one without some of its sweeps. -/
inductive OmitsSweeps : List Event → List Event → Prop
  | nil : OmitsSweeps [] []
  | keep {events events' : List Event} (event : Event) :
      OmitsSweeps events events' → OmitsSweeps (event :: events) (event :: events')
  | leaveOut {events events' : List Event} (event : Event) : event.operation = .sweep →
      OmitsSweeps events events' → OmitsSweeps (event :: events) events'

/-- Tells that the times of a run never decrease. -/
def IsOrdered (events : List Event) : Prop := events.Pairwise fun a b => a.now ≤ b.now

/-- Sweeps that are left out keep two runs in step, up to the time of the next step. -/
theorem Stores.isRestOf_after {settings : Settings} {rest full : Stores}
    {events events' : List Event} {next : Event} (homits : OmitsSweeps events events')
    (hordered : IsOrdered (events ++ [next]))
    (h : ∀ event ∈ events ++ [next], rest.IsRestOf full event.now) :
    (rest.after settings events).IsRestOf (full.after settings events') next.now := by
  -- The stores are in step at the time of every step to come, so that the next one may be taken.
  induction homits generalizing rest full with
  | nil => exact h next List.mem_cons_self
  | keep event _ ih =>
      obtain ⟨hfirst, hordered⟩ := List.pairwise_cons.mp hordered
      have hevent := h event List.mem_cons_self
      have hstep : (event.perform settings rest).2.IsRestOf (event.perform settings full).2
          event.now := by
        by_cases hsweep : event.operation = .sweep
        -- A sweep of both runs makes their stores the same again.
        · rw [Event.perform_of_sweep hsweep, Event.perform_of_sweep hsweep, hevent.sweep_eq]
          exact .refl _ _
        · exact (Event.perform_of_isRestOf hevent hsweep).2
      exact ih hordered fun e he => hstep.mono (hfirst e he)
  | leaveOut event hsweep _ ih =>
      obtain ⟨hfirst, hordered⟩ := List.pairwise_cons.mp hordered
      have hstep : (event.perform settings rest).2.IsRestOf full event.now := by
        rw [Event.perform_of_sweep hsweep]
        exact (h event List.mem_cons_self).sweep
      exact ih hordered fun e he => hstep.mono (hfirst e he)

/-- Tells that a sweep takes out of a registry what nothing can see from then on, and leaves what
may still be used, in its last second too. -/
structure Registry.IsSwept {α : Type} (registry swept : Registry α) (now : Timestamp) : Prop where
  stored?_iff : ∀ key entry, swept.stored? key = some entry ↔
    registry.stored? key = some entry ∧ now ≤ entry.expiry
  unseen : ∀ key later, now ≤ later → swept.get? key later = registry.get? key later

theorem Registry.isSwept_evict {α : Type} (registry : Registry α) (now : Timestamp) :
    registry.IsSwept (registry.evict now).2 now := by
  constructor
  · intro key entry
    rw [stored?_evict]
    exact live?_eq_some_iff
  · intro key later hlater
    exact ((isRestOf_evict registry now).mono hlater).get?_eq key

/-- What a sweep at a time does to the stores of a run with more sweeps before it, and to those of
a run with fewer. -/
structure Stores.SweepsAlike (rest full : Stores) (now : Timestamp) : Prop where
  same_stores : (full.sweep now).2 = (rest.sweep now).2
  offers : (full.sweep now).1.offers + rest.offers.size =
    (rest.sweep now).1.offers + full.offers.size
  requests : (full.sweep now).1.requests + rest.requests.size =
    (rest.sweep now).1.requests + full.requests.size
  offers_swept : rest.offers.IsSwept (rest.sweep now).2.offers now
  requests_swept : rest.requests.IsSwept (rest.sweep now).2.requests now

theorem Stores.IsRestOf.sweepsAlike {rest full : Stores} {now : Timestamp}
    (h : rest.IsRestOf full now) : rest.SweepsAlike full now := by
  constructor
  · exact h.sweep_eq.symm
  · exact h.offers.fst_evict_add_size
  · exact h.requests.fst_evict_add_size
  · exact Registry.isSwept_evict _ _
  · exact Registry.isSwept_evict _ _

/-- Sweeps that are left out of a run change the answer to no other step that is no sweep. A sweep
that remains takes out what may no longer be used, leaves the same stores, and reports in addition
what is no longer in the stores of the run with all its sweeps. -/
theorem answer_of_omitsSweeps (settings : Settings) {before before' : List Event} {event : Event}
    (hordered : IsOrdered (before ++ [event])) (homits : OmitsSweeps before before') :
    (event.operation ≠ .sweep → Stores.empty.answer settings before' event =
      Stores.empty.answer settings before event) ∧
    (Stores.empty.after settings before).SweepsAlike (Stores.empty.after settings before')
      event.now := by
  have hrest : (Stores.empty.after settings before).IsRestOf (Stores.empty.after settings before')
      event.now :=
    Stores.isRestOf_after homits hordered fun _ _ => .refl _ _
  exact ⟨fun hsweep => (Event.perform_of_isRestOf hrest hsweep).1.symm, hrest.sweepsAlike⟩

/-- An offer is bound in its last second, whether or not the stores were swept before. -/
theorem bound_after_sweep_in_last_second :
    let offer : Event := ⟨.issueDirect (.ofByte 1), .epoch, .epoch⟩
    let sweep : Event := ⟨.sweep, .afterEpoch, .epoch⟩
    let bind : Event := ⟨.bindAndIssue (DidKey.ofPublicKey (KeyPair.ofByte 1).publicKey).text
      "did:example:subject", .afterEpoch, .epoch⟩
    ∃ credential, Stores.empty.answer .sample [offer] bind = .credential (.ok credential) ∧
      Stores.empty.answer .sample [offer, sweep] bind = .credential (.ok credential) := by
  intro offer sweep bind
  have hlater : Timestamp.epoch ≤ .afterEpoch := by decide
  have hordered : IsOrdered ([offer, sweep] ++ [bind]) := by
    simp [IsOrdered, offer, sweep, bind, hlater]
  have homits : OmitsSweeps [offer, sweep] [offer] := .keep offer (.leaveOut sweep rfl .nil)
  obtain ⟨credential, hissued⟩ : ∃ credential, (Offers.bindAndIssue bind.toolkit .sample
      (DidKey.ofPublicKey (KeyPair.ofByte 1).publicKey).text "did:example:subject" .afterEpoch
      (Stores.empty.after .sample [offer]).offers).1 = .ok credential :=
    Offers.bindAndIssue_after_issueDirect rfl Timestamp.epoch_plus (le_refl _) (by decide)
  have hwithout : Stores.empty.answer .sample [offer] bind = .credential (.ok credential) :=
    congrArg Answer.credential hissued
  have hsame := (answer_of_omitsSweeps .sample hordered homits).1 nofun
  exact ⟨credential, hwithout, hsame.symm.trans hwithout⟩

/-- Half an hour after the start of the year 1970. -/
def Timestamp.halfHour : Timestamp := ⟨1800, false, by decide, nofun⟩

/-- A sweep that remains does not report the same when an earlier one is left out. -/
theorem not_same_report_of_omitsSweeps :
    ¬∀ (settings : Settings) (before before' : List Event) (event : Event),
      IsOrdered (before ++ [event]) → OmitsSweeps before before' →
        Stores.empty.answer settings before' event = Stores.empty.answer settings before event := by
  intro h
  let request : Event := ⟨.createRequest "challenge" "shop.example", .epoch, .epoch⟩
  let sweep : Event := ⟨.sweep, .halfHour, .epoch⟩
  have hlater : Timestamp.epoch ≤ .halfHour := by decide
  have hsame := h .sample [request, sweep] [request] sweep
    (by simp [IsOrdered, request, sweep, hlater])
    (.keep request (.leaveOut sweep rfl .nil))
  have hswept : Stores.empty.answer .sample [request] sweep = .swept ⟨0, 1⟩ := rfl
  have hnothing : Stores.empty.answer .sample [request, sweep] sweep = .swept ⟨0, 0⟩ := rfl
  rw [hswept, hnothing] at hsame
  cases hsame

end WalletCredentials
