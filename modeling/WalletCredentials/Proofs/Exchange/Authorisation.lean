import WalletCredentials.Proofs.Exchange.Run

/-!
# Where issued credentials come from

Every offer in the store was put there by a step that was entitled to: a redemption with the
server's own signature, or a direct issuance that minted the identifier. Neither a bound
subject nor a sweep changes which step that was, so that a credential leads back to it.
-/

namespace WalletCredentials

namespace Event

/-- Tells that a step is entitled to put an offer under an identifier into the store. It hands
in the server's own signature of the identifier and of an end that has not passed, or it
issues a credential for the identifier of its fresh key. -/
def Authorises (settings : Settings) (id : String) (event : Event) : Prop :=
  (∃ expires last,
    event.operation =
      .redeem id expires (OfferToken.signatureOf settings.secret id expires).text ∧
    Timestamp.read expires = .ok last ∧ event.now ≤ last) ∨
  ∃ fresh, event.operation = .issueDirect fresh ∧
    id = (DidKey.ofPublicKey fresh.publicKey).text

variable {settings : Settings} {event : Event} {offer : CredentialOffer}

/-- What a step puts into the store is an offer by the configured issuer, valid from the time
of the step for the lifetime of offers, under an identifier that the step is entitled to. -/
theorem kept?_eq_some (h : event.kept? settings = some offer) :
    event.Authorises settings offer.id ∧
      ∃ key last expires, settings.issuerKey.publicKey = .ok key ∧
        event.now.plus settings.offerTtl = .ok last ∧
        offer = .between offer.id (DidKey.ofPublicKey key) event.now last expires := by
  obtain ⟨operation, now, clock⟩ := event
  cases operation with
  | redeem id expires supplied =>
      obtain ⟨hcheck, hprepare⟩ := Offers.unlock_eq_ok_iff.mp (toOption_eq_some_iff.mp h)
      obtain ⟨key, last, hkey, hlast, rfl⟩ := Offers.prepare_eq_ok_iff.mp hprepare
      obtain ⟨-, -, -, stated, hstated, hnow, rfl⟩ := OfferToken.check_eq_ok_iff.mp hcheck
      exact ⟨.inl ⟨expires, stated, rfl, hstated, hnow⟩, key, last, expires, hkey, hlast, rfl⟩
  | issueDirect fresh =>
      obtain ⟨key, last, hkey, hlast, rfl⟩ :=
        Offers.prepareFresh_eq_ok_iff.mp (toOption_eq_some_iff.mp h)
      exact ⟨.inr ⟨fresh, rfl, rfl⟩, key, last, last.text, hkey, hlast, rfl⟩
  | _ => cases h

end Event

namespace Stores

variable {settings : Settings} {events : List Event}

/-- Every offer in the store was put there by the last step that put one under its
identifier, with the expiry of its credential, and has at most a subject bound to it since. -/
theorem exists_kept_of_entry {id : String} {entry : Registry.Entry CredentialOffer}
    (h : (empty.after settings events).offers.stored? id = some entry) :
    ∃ before event after, events = before ++ event :: after ∧
      (∃ offer, event.kept? settings = some offer ∧ offer.id = id ∧
        entry.expiry = offer.preview.expirationDate ∧
        (entry.value = offer ∨ ∃ subject, entry.value = offer.bind subject)) ∧
      ∀ e ∈ after, ¬e.Keeps settings id := by
  -- Along the run the entry may still lack the subject that is bound in the end.
  refine exists_origin (fun stores => ∃ value,
    stores.offers.stored? id = some ⟨value, entry.expiry⟩ ∧
      (entry.value = value ∨ ∃ subject, entry.value = value.bind subject)) ?_ ?_
    ⟨entry.value, h, .inl rfl⟩
  · rintro ⟨value, hempty, -⟩
    cases hempty
  · rintro stores event ⟨value, hentry, hvalue⟩
    rcases Event.offer_entry_cases hentry with
      ⟨offer, hkept, hid, hnew⟩ | ⟨hkeeps, value', hbefore, hbound⟩
    · rw [Registry.Entry.mk.injEq] at hnew
      obtain ⟨rfl, hexpiry⟩ := hnew
      exact .inl ⟨value, hkept, hid, hexpiry, hvalue⟩
    · refine .inr ⟨hkeeps, value', hbefore, ?_⟩
      rcases hbound with rfl | ⟨subject', -, -, rfl⟩
      · exact hvalue
      -- A second subject replaces the first, so that one binding is all that is left.
      · rcases hvalue with hvalue | ⟨subject, hvalue⟩
        · exact .inr ⟨subject', hvalue⟩
        · exact .inr ⟨subject, hvalue⟩

end Stores

namespace Offers

open Ed25519

/-- A credential that was issued without a subject can be issued to one for its lifetime. -/
theorem bindAndIssue_after_issueDirect {settings : Settings} {pair fresh : KeyPair}
    {subject : String} {first last now clock clock' : Timestamp}
    (hkey : settings.issuerKey = Jwk.ofKeyPair pair)
    (hlast : first.plus settings.offerTtl = .ok last) (hnow : now ≤ last) (hsubject : subject ≠ "") :
    ∃ credential,
      (bindAndIssue (.ofClock clock') settings (DidKey.ofPublicKey fresh.publicKey).text subject now
        (Stores.empty.after settings [⟨.issueDirect fresh, first, clock⟩]).offers).1 =
          .ok credential := by
  have hprepare : prepareFresh (.ofClock clock) settings fresh first = .ok (.between
      (DidKey.ofPublicKey fresh.publicKey).text (DidKey.ofPublicKey pair.publicKey) first last
      last.text) :=
    prepareFresh_eq_ok_iff.mpr ⟨pair.publicKey, last, hkey ▸ Jwk.publicKey_ofKeyPair pair, hlast, rfl⟩
  have hentry := Event.stored?_perform_of_kept .empty
    (Event.kept?_issueDirect_eq_some_iff.mpr hprepare)
  exact ⟨_, bindAndIssue_of_issuer hkey rfl hsubject (Did.text_ne _) hentry hnow⟩

/-- A credential that is issued to a subject leads back to the last step that put an offer
under its identifier: the step was entitled to, the lifetime of offers has not passed since,
and the credential states the identifier, the configured issuer, the time of that step, the
end of the lifetime and the subject. -/
theorem exists_authorisation_of_bindAndIssue {settings : Settings} {events : List Event}
    {id subject : String} {now clock : Timestamp} {credential : Json}
    (h : (bindAndIssue (.ofClock clock) settings id subject now
      (Stores.empty.after settings events).offers).1 = .ok credential) :
    ∃ before event after key last, events = before ++ event :: after ∧
      event.Authorises settings id ∧ event.Keeps settings id ∧
      (∀ e ∈ after, ¬e.Keeps settings id) ∧
      event.now.plus settings.offerTtl = .ok last ∧ now ≤ last ∧
      settings.issuerKey.publicKey = .ok key ∧
      credential.text? "id" = some id ∧
      credential.text? "issuer" = some (DidKey.ofPublicKey key).text ∧
      credential.text? "issuanceDate" = some event.now.text ∧
      credential.text? "expirationDate" = some last.text ∧
      ∃ value, credential.member? "credentialSubject" = some value ∧
        value.text? "id" = some subject := by
  obtain ⟨entry, hentry, hlive, hissue⟩ := exists_entry_of_bindAndIssue h
  obtain ⟨before, event, after, rfl, ⟨offer, hkept, rfl, hexpiry, hvalue⟩, hafter⟩ :=
    Stores.exists_kept_of_entry hentry
  obtain ⟨hauthorises, key, last, expires, hkey, hlast, hoffer⟩ := Event.kept?_eq_some hkept
  have hbound : entry.value.bind subject = offer.bind subject := by
    rcases hvalue with hvalue | ⟨subject', hvalue⟩
    · rw [hvalue]
    · rw [hvalue]
      rfl
  rw [hbound] at hissue
  obtain ⟨issuer, pair, -, -, -, rfl⟩ := issue_eq_ok_iff.mp hissue
  refine ⟨before, event, after, key, last, rfl, hauthorises, ⟨offer, hkept, rfl⟩, hafter, hlast, ?_,
    hkey, ?_⟩
  · rw [hexpiry, hoffer] at hlive
    exact hlive
  · obtain ⟨hid, hissuer, hissued, hexpires, hsubject⟩ :=
      (offer.bind subject).preview.stated_withProof clock (.assertion issuer) pair
    rw [hid, hissuer, hissued, hexpires, hsubject, hoffer]
    exact ⟨rfl, rfl, rfl, rfl, _, rfl, rfl⟩

theorem exists_authorisation_of_direct_issuance :
    ∃ credential,
      (bindAndIssue (.ofClock .epoch) .sample
        (DidKey.ofPublicKey (KeyPair.ofByte 1).publicKey).text "did:example:alice" .afterEpoch
        (Stores.empty.after .sample [⟨.issueDirect (.ofByte 1), .epoch, .epoch⟩]).offers).1 =
          .ok credential ∧
      ∃ event, Event.Authorises .sample (DidKey.ofPublicKey (KeyPair.ofByte 1).publicKey).text
        event := by
  obtain ⟨credential, h⟩ : ∃ credential,
      (bindAndIssue (.ofClock .epoch) .sample
        (DidKey.ofPublicKey (KeyPair.ofByte 1).publicKey).text "did:example:alice" .afterEpoch
        (Stores.empty.after .sample [⟨.issueDirect (.ofByte 1), .epoch, .epoch⟩]).offers).1 =
          .ok credential :=
    bindAndIssue_after_issueDirect rfl Timestamp.epoch_plus (le_refl _) (by decide)
  obtain ⟨_, event, _, _, _, _, hevent, _⟩ := exists_authorisation_of_bindAndIssue h
  exact ⟨credential, h, event, hevent⟩

end Offers

end WalletCredentials
