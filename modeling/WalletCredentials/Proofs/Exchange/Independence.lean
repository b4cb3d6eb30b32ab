import WalletCredentials.Proofs.Exchange.Refusal
import WalletCredentials.Proofs.Timestamp.Text

/-!
# Operations on different things

A redemption or a binding sees nothing of the stores but the entry of its own offer, and the
handing out or the answering of a sign-in request nothing but the entry of its own challenge. What
they change is at most that entry. So two of them that name different things may change places:
neither answer and nothing in the stores tells in which order they came.
-/

namespace WalletCredentials

open Ed25519

/-- A place in the stores: the entry of an offer or that of a request. -/
inductive Place
  | offer (id : String)
  | request (challenge : String)
  deriving DecidableEq

/-- The place that an operation names, where it names one. -/
def Operation.place? : Operation → Option Place
  | .redeem id _ _ => some (.offer id)
  | .bindAndIssue id _ => some (.offer id)
  | .createRequest challenge _ => some (.request challenge)
  | .verifyPresentation challenge _ _ => some (.request challenge)
  | _ => none

/-- Tells that two stores hold the same at a place. -/
def Stores.AgreeAt (stores stores' : Stores) : Place → Prop
  | .offer id => stores.offers.stored? id = stores'.offers.stored? id
  | .request challenge => stores.requests.stored? challenge = stores'.requests.stored? challenge

namespace Stores.AgreeAt

variable {stores stores' stores'' : Stores} {place : Place}

theorem refl (stores : Stores) (place : Place) : stores.AgreeAt stores place := by
  cases place <;> rfl

theorem symm (h : stores.AgreeAt stores' place) : stores'.AgreeAt stores place := by
  cases place <;> exact Eq.symm h

theorem trans (h : stores.AgreeAt stores' place) (h' : stores'.AgreeAt stores'' place) :
    stores.AgreeAt stores'' place := by
  cases place <;> exact Eq.trans h h'

end Stores.AgreeAt

/-- Stores that hold the same at every place are the same. -/
theorem Stores.ext_agreeAt {stores stores' : Stores} (h : ∀ place, stores.AgreeAt stores' place) :
    stores = stores' := by
  obtain ⟨offers, requests⟩ := stores
  obtain ⟨offers', requests'⟩ := stores'
  have hoffers : offers = offers' := Registry.ext_stored? fun id => h (.offer id)
  have hrequests : requests = requests' := Registry.ext_stored? fun challenge => h (.request challenge)
  rw [hoffers, hrequests]

/-! ## Steps at one place -/

/-- Tells that a step sees and changes the stores at one place only. -/
structure IsLocal (step : Stores → Answer × Stores) (place : Place) : Prop where
  answer_eq : ∀ {stores stores' : Stores}, stores.AgreeAt stores' place →
    (step stores).1 = (step stores').1
  /-- What stands at the place afterwards depends on what stood there. -/
  agreeAt : ∀ {stores stores' : Stores}, stores.AgreeAt stores' place →
    (step stores).2.AgreeAt (step stores').2 place
  agreeAt_of_ne : ∀ (stores : Stores) {other : Place}, other ≠ place →
    (step stores).2.AgreeAt stores other

namespace IsLocal

variable {first second : Stores → Answer × Stores} {place place' : Place}

/-- A step at another place does not change the answer of a step. -/
theorem answer_after (hfirst : IsLocal first place) (hsecond : IsLocal second place')
    (hne : place ≠ place') (stores : Stores) :
    (second (first stores).2).1 = (second stores).1 :=
  hsecond.answer_eq (hfirst.agreeAt_of_ne stores hne.symm)

/-- Steps at different places come to the same stores in either order. -/
theorem stores_comm (hfirst : IsLocal first place) (hsecond : IsLocal second place')
    (hne : place ≠ place') (stores : Stores) :
    (second (first stores).2).2 = (first (second stores).2).2 := by
  apply Stores.ext_agreeAt
  intro other
  by_cases h : other = place
  -- Here the second step leaves alone what the first step makes of the same entry.
  · subst h
    exact (hsecond.agreeAt_of_ne _ hne).trans
      (hfirst.agreeAt (hsecond.agreeAt_of_ne stores hne).symm)
  by_cases h' : other = place'
  · subst h'
    exact (hsecond.agreeAt (hfirst.agreeAt_of_ne stores h)).trans
      (hfirst.agreeAt_of_ne _ h).symm
  · exact ((hsecond.agreeAt_of_ne _ h').trans (hfirst.agreeAt_of_ne stores h)).trans
      ((hfirst.agreeAt_of_ne _ h).trans (hsecond.agreeAt_of_ne stores h')).symm

end IsLocal

/-! ## The operations -/

namespace Operation

variable (toolkit : Toolkit) (settings : Settings) (now : Timestamp)

theorem isLocal_redeem (id expires supplied : String) :
    IsLocal ((redeem id expires supplied).perform toolkit settings now) (.offer id) where
  answer_eq _ := by simp only [perform, Offers.fst_redeem]
  agreeAt h := by
    simp only [perform, Stores.AgreeAt, Offers.stored?_redeem] at h ⊢
    split
    · rw [if_pos trivial, if_pos trivial]
    · exact h
  agreeAt_of_ne stores other hne := by
    cases other with
    | offer key =>
        have hkey : id ≠ key := fun h => hne (congrArg Place.offer h.symm)
        simp only [perform, Stores.AgreeAt, Offers.stored?_redeem, if_neg hkey]
        split <;> rfl
    | request challenge => rfl

theorem isLocal_bindAndIssue (id subject : String) :
    IsLocal ((bindAndIssue id subject).perform toolkit settings now) (.offer id) where
  answer_eq h := congrArg Answer.credential (Offers.fst_bindAndIssue_congr (Registry.live?_congr h now))
  agreeAt h := by
    simp only [perform, Stores.AgreeAt, Offers.snd_bindAndIssue] at h ⊢
    split
    · exact h
    · exact Registry.stored?_update_congr h now _
  agreeAt_of_ne stores other hne := by
    cases other with
    | offer key =>
        have hkey : id ≠ key := fun h => hne (congrArg Place.offer h.symm)
        simp only [perform, Stores.AgreeAt, Offers.snd_bindAndIssue]
        split
        · rfl
        · exact (Registry.stored?_update ..).trans (if_neg fun h => hkey h.1)
    | request challenge => rfl

theorem isLocal_createRequest (challenge domain : String) :
    IsLocal ((createRequest challenge domain).perform toolkit settings now)
      (.request challenge) where
  answer_eq _ := by
    simp only [perform, SignIn.createRequest]
    split <;> rfl
  agreeAt h := by
    simp only [perform, Stores.AgreeAt, SignIn.createRequest] at h ⊢
    split
    · rw [Registry.stored?_put, Registry.stored?_put, if_pos rfl, if_pos rfl]
    · exact h
  agreeAt_of_ne stores other hne := by
    cases other with
    | offer id => rfl
    | request key =>
        have hkey : challenge ≠ key := fun h => hne (congrArg Place.request h.symm)
        simp only [perform, Stores.AgreeAt, SignIn.createRequest]
        split
        · rw [Registry.stored?_put, if_neg hkey]
        · rfl

theorem isLocal_verifyPresentation (challenge text domain : String) :
    IsLocal ((verifyPresentation challenge text domain).perform toolkit settings now)
      (.request challenge) where
  answer_eq {stores stores'} h := by
    have hget : stores.requests.get? challenge now = stores'.requests.get? challenge now := by
      rw [Registry.get?, Registry.get?, Registry.live?_congr h]
    simp only [perform, SignIn.verifyPresentation, hget]
  agreeAt h := h
  agreeAt_of_ne stores _ _ := .refl stores _

/-- An operation that names a place sees and changes nothing else. -/
theorem isLocal_perform {operation : Operation} {place : Place}
    (h : operation.place? = some place) :
    IsLocal (operation.perform toolkit settings now) place := by
  cases operation with
  | redeem id expires supplied =>
      cases h
      exact isLocal_redeem toolkit settings now id expires supplied
  | bindAndIssue id subject =>
      cases h
      exact isLocal_bindAndIssue toolkit settings now id subject
  | createRequest challenge domain =>
      cases h
      exact isLocal_createRequest toolkit settings now challenge domain
  | verifyPresentation challenge text domain =>
      cases h
      exact isLocal_verifyPresentation toolkit settings now challenge text domain
  | createToken fresh => cases h
  | issueDirect fresh => cases h
  | sweep => cases h

variable {toolkit settings now}

/-- Two operations that name different things answer the same in either order, and leave the same
stores. Each has a toolkit and a time of its own. -/
theorem perform_comm {first second : Operation} {place place' : Place}
    (hfirst : first.place? = some place) (hsecond : second.place? = some place')
    (hne : place ≠ place') (settings : Settings) (toolkit toolkit' : Toolkit) (now now' : Timestamp)
    (stores : Stores) :
    let one := first.perform toolkit settings now
    let other := second.perform toolkit' settings now'
    (other (one stores).2).1 = (other stores).1 ∧ (one (other stores).2).1 = (one stores).1 ∧
      (other (one stores).2).2 = (one (other stores).2).2 := by
  intro one other
  have hone : IsLocal one place := isLocal_perform toolkit settings now hfirst
  have hother : IsLocal other place' := isLocal_perform toolkit' settings now' hsecond
  exact ⟨hone.answer_after hother hne stores, hother.answer_after hone hne.symm stores,
    hone.stores_comm hother hne stores⟩

/-- A redemption and a binding of another offer both succeed, in either order. -/
theorem redeem_and_bindAndIssue_comm :
    let id := (DidKey.ofPublicKey (KeyPair.ofByte 1).publicKey).text
    let expires := Timestamp.afterEpoch.text
    let supplied := (OfferToken.signatureOf Settings.sample.secret "card" expires).text
    let stores := Stores.empty.after .sample [⟨.issueDirect (.ofByte 1), .epoch, .epoch⟩]
    let one := (redeem "card" expires supplied).perform (.ofClock .epoch) .sample .epoch
    let other := (Operation.bindAndIssue id "did:example:subject").perform (.ofClock .afterEpoch)
      .sample .afterEpoch
    (redeem "card" expires supplied).place? = some (.offer "card") ∧
      (Operation.bindAndIssue id "did:example:subject").place? = some (.offer id) ∧
      Place.offer "card" ≠ .offer id ∧
      ∃ offer credential, (one stores).1 = .offer (.ok offer) ∧
        (one (other stores).2).1 = .offer (.ok offer) ∧
        (other stores).1 = .credential (.ok credential) ∧
        (other (one stores).2).1 = .credential (.ok credential) ∧
        (other (one stores).2).2 = (one (other stores).2).2 := by
  intro id expires supplied stores one other
  have hne : Place.offer "card" ≠ .offer id := by
    intro h
    have hread : Did.read "card" = .ok _ :=
      (congrArg Did.read (Place.offer.inj h)).trans (Did.read_text _)
    cases hread
  have hread : Timestamp.read expires = .ok .afterEpoch := Timestamp.read_text (by decide)
  have hcheck : OfferToken.check Settings.sample.secret "card" expires supplied .epoch = .ok () :=
    OfferToken.check_eq_ok_iff.mpr
      ⟨by decide, TokenSignature.text_ne _, by decide, _, hread, by decide, rfl⟩
  have hunlock : Offers.unlock (.ofClock .epoch) .sample "card" expires supplied .epoch = .ok _ :=
    Offers.unlock_eq_ok_iff.mpr ⟨hcheck, Offers.prepare_eq_ok_iff.mpr
      ⟨_, _, Jwk.publicKey_ofKeyPair _, Timestamp.epoch_plus, rfl⟩⟩
  have hone : (one stores).1 = .offer (.ok _) :=
    congrArg Answer.offer (Offers.fst_redeem.trans hunlock)
  obtain ⟨credential, hbound⟩ : ∃ credential, (Offers.bindAndIssue (.ofClock .afterEpoch) .sample id
      "did:example:subject" .afterEpoch stores.offers).1 = .ok credential :=
    Offers.bindAndIssue_after_issueDirect rfl Timestamp.epoch_plus le_rfl (by decide)
  have hother : (other stores).1 = .credential (.ok credential) := congrArg Answer.credential hbound
  have hfirst : (redeem "card" expires supplied).place? = some (.offer "card") := rfl
  have hsecond : (Operation.bindAndIssue id "did:example:subject").place? = some (.offer id) := rfl
  obtain ⟨hanswer, hanswer', hstores⟩ := perform_comm hfirst hsecond hne .sample (.ofClock .epoch)
    (.ofClock .afterEpoch) .epoch .afterEpoch stores
  exact ⟨hfirst, hsecond, hne, _, credential, hone, hanswer'.trans hone, hother, hanswer.trans hother,
    hstores⟩

end Operation

end WalletCredentials
