import WalletCredentials.Proofs.Exchange.Run
import WalletCredentials.Proofs.Timestamp.Text

/-!
# The life of a token

A token is redeemed through the second in which it ends, and refused as expired at every later
time. The server does not remember the token: its end travels as a text, which is read back as
the time that was written.
-/

namespace WalletCredentials

open Ed25519

namespace OfferToken

/-- Tells that the texts of a token are those of one that is signed and ends at a time. -/
structure IsSignedUntil (secret : Secret) (id expires supplied : String) (last : Timestamp) :
    Prop where
  id_ne : id ≠ ""
  read_expires : Timestamp.read expires = .ok last
  supplied_eq : supplied = (signatureOf secret id expires).text

/-- A signed token is accepted through its end and has expired afterwards. -/
theorem IsSignedUntil.check_eq {secret : Secret} {id expires supplied : String}
    {last : Timestamp} (h : IsSignedUntil secret id expires supplied last) (now : Timestamp) :
    check secret id expires supplied now =
      if last < now then .error (.expired expires) else .ok () := by
  obtain ⟨hid, hread, rfl⟩ := h
  have hsupplied := (signatureOf secret id expires).text_ne
  have hexpires : expires ≠ "" := by
    rintro rfl
    cases hread
  rw [check, if_neg (by simpa using hid), if_neg (by simpa using hsupplied),
    if_neg (by simpa using hexpires), hread, mapError_ok, ok_bind]
  by_cases hlast : last < now
  · rw [if_pos (by simpa [Timestamp.isPassedAt] using hlast), if_pos hlast]
    rfl
  · rw [if_neg (by simpa [Timestamp.isPassedAt] using hlast), if_neg hlast,
      if_neg (by simp [isSigned])]
    rfl

/-- Tells that a token is redeemed through a time and has expired afterwards, whatever offers
the store holds. -/
structure LivesUntil (settings : Settings) (token : OfferToken) (last : Timestamp) : Prop where
  /-- The offer that is answered is the one that is kept, and it is valid from now on. -/
  redeemed : ∀ (now clock : Timestamp) (store : OfferStore) (expiry : Timestamp),
    now ≤ last → now.plus settings.offerTtl = .ok expiry →
    ∃ offer store', Offers.redeem (.ofClock clock) settings token.id token.expires
        token.signature.text now store = (.ok offer, store') ∧
      store'.stored? token.id = some ⟨offer, expiry⟩ ∧
      offer.id = token.id ∧ offer.expires = token.expires ∧
      offer.preview.issuanceDate = now ∧ offer.preview.expirationDate = expiry
  expired : ∀ (now clock : Timestamp) (store : OfferStore), last < now →
    Offers.redeem (.ofClock clock) settings token.id token.expires token.signature.text now store =
      (.error (.expired token.expires), store)

/-- A signed token lives until its end, if the issuer has an identifier. -/
theorem livesUntil_sign {settings : Settings} {id expires : String} {key : PublicKey}
    {last : Timestamp} (hkey : settings.issuerKey.publicKey = .ok key)
    (hsigned : IsSignedUntil settings.secret id expires
      (signatureOf settings.secret id expires).text last) :
    (sign settings.secret id expires).LivesUntil settings last where
  redeemed now clock store expiry hnow hexpiry := by
    have hcheck : check settings.secret id expires
        (signatureOf settings.secret id expires).text now = .ok () := by
      rw [hsigned.check_eq, if_neg (not_lt.mpr hnow)]
    have hunlock : Offers.unlock (.ofClock clock) settings id expires
        (signatureOf settings.secret id expires).text now =
          .ok (.between id (DidKey.ofPublicKey key) now expiry expires) :=
      Offers.unlock_eq_ok_iff.mpr
        ⟨hcheck, Offers.prepare_eq_ok_iff.mpr ⟨key, expiry, hkey, hexpiry, rfl⟩⟩
    refine ⟨_, _, Offers.redeem_of_unlock hunlock, ?_, rfl, rfl, rfl, rfl⟩
    exact (Registry.stored?_put ..).trans (if_pos rfl)
  expired now clock store hnow := by
    have hcheck : check settings.secret id expires
        (signatureOf settings.secret id expires).text now = .error (.expired expires) := by
      rw [hsigned.check_eq, if_pos hnow]
    have hunlock : Offers.unlock (.ofClock clock) settings id expires
        (signatureOf settings.secret id expires).text now = .error (.expired expires) := by
      rw [Offers.unlock, hcheck, error_bind]
    exact Offers.redeem_of_unlock_error hunlock

/-- A token that is minted lives until its end. Its end has to be a time of a year with four
digits, and the key of the issuer has to have an identifier. Minting changes no store. -/
theorem livesUntil_of_createToken {settings : Settings} {issuer : Did} {last now : Timestamp}
    (hissuer : DidKey.ofJwk DidKey.methodName settings.issuerKey = .ok issuer)
    (hlast : now.plus settings.offerTtl = .ok last) (hyear : last.HasFourDigitYear)
    (fresh : KeyPair) (clock : Timestamp) (stores : Stores) :
    ∃ token, Event.perform settings stores ⟨.createToken fresh, now, clock⟩ =
        (.token (.ok token), stores) ∧
      token.expires = last.text ∧ token.LivesUntil settings last := by
  have hdid : Offers.didOf (.ofClock clock) settings.issuerKey = .ok issuer :=
    Outcome.value_eq_ok_iff.mpr (congrArg Outcome.done hissuer)
  obtain ⟨key, hkey, -⟩ := Offers.didOf_eq_ok_iff.mp hdid
  have htoken : Offers.createToken (.ofClock clock) settings fresh now =
      .ok (sign settings.secret (DidKey.ofPublicKey fresh.publicKey).text last.text) :=
    Offers.createToken_eq_ok_iff.mpr ⟨last, hlast, rfl⟩
  exact ⟨_, Prod.ext (congrArg Answer.token htoken) rfl, rfl,
    livesUntil_sign hkey ⟨Did.text_ne _, Timestamp.read_text hyear, rfl⟩⟩

end OfferToken

/-- The leap second at the end of the year 2016. -/
def Timestamp.leapSecond : Timestamp := ⟨1483228799, true, by decide, by decide⟩

/-- A quarter of an hour after the second before that leap second. -/
def Timestamp.afterLeapSecond : Timestamp := ⟨1483229699, false, by decide, nofun⟩

theorem OfferToken.livesUntil_of_leapSecond :
    DidKey.ofJwk DidKey.methodName Settings.sample.issuerKey =
        .ok (DidKey.ofPublicKey (KeyPair.ofByte 0).publicKey) ∧
      Timestamp.leapSecond.plus Settings.sample.offerTtl = .ok .afterLeapSecond ∧
      Timestamp.afterLeapSecond.HasFourDigitYear ∧
      ∃ token, Event.perform .sample .empty ⟨.createToken (.ofByte 1), .leapSecond, .epoch⟩ =
          (.token (.ok token), .empty) ∧
        token.expires = "2017-01-01T00:14:59Z" ∧ token.LivesUntil .sample .afterLeapSecond := by
  have hissuer : DidKey.ofJwk DidKey.methodName Settings.sample.issuerKey =
      .ok (DidKey.ofPublicKey (KeyPair.ofByte 0).publicKey) := by
    rw [DidKey.ofJwk, if_neg (by decide), Settings.sample, Settings.standard,
      Jwk.publicKey_ofKeyPair]
    rfl
  have hlast : Timestamp.leapSecond.plus Settings.sample.offerTtl = .ok .afterLeapSecond :=
    Timestamp.plus_eq_ok_iff.mpr rfl
  have hyear : Timestamp.afterLeapSecond.HasFourDigitYear := by decide
  obtain ⟨token, htoken, hexpires, hlives⟩ :=
    livesUntil_of_createToken hissuer hlast hyear (.ofByte 1) .epoch .empty
  have htext : Timestamp.afterLeapSecond.text = "2017-01-01T00:14:59Z" := by decide
  exact ⟨hissuer, hlast, hyear, token, htoken, hexpires.trans htext, hlives⟩

end WalletCredentials
