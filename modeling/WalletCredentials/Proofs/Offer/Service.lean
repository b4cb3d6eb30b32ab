import WalletCredentials.Offer.Service
import WalletCredentials.Proofs.Proof.Signing
import WalletCredentials.Proofs.Registry

/-!
# What the operations on offers do

For each operation the conditions under which it succeeds with the toolkit for identifiers of
keys, the value that it comes to, and what it does to the store.
-/

namespace WalletCredentials

open Ed25519

theorem Outcome.value_eq_ok_iff {α : Type} {operation : String} {outcome : Outcome α} {a : α} :
    outcome.value operation = .ok a ↔ outcome = .done (.ok a) := by
  cases outcome with
  | done result =>
      cases result with
      | ok a' => simp [Outcome.value, Outcome.result]
      | error e => simp [Outcome.value, Outcome.result]
  | broken => simp [Outcome.value, Outcome.result]
  | unending => simp [Outcome.value, Outcome.result]

theorem TokenSignature.length_text (signature : TokenSignature) : signature.text.length = 64 := by
  rw [text, Hex.encode, String.length_ofList, Hex.length_digits, signature.length_eq]
  rfl

theorem TokenSignature.text_ne (signature : TokenSignature) : signature.text ≠ "" := by
  intro h
  have hlength := signature.length_text
  rw [h] at hlength
  cases hlength

/-- A token is accepted exactly if it is complete, its end has not passed and its signature
is the server's own. -/
theorem OfferToken.check_eq_ok_iff {secret : Secret} {id expires supplied : String}
    {now : Timestamp} :
    OfferToken.check secret id expires supplied now = .ok () ↔
      id ≠ "" ∧ supplied ≠ "" ∧ expires ≠ "" ∧
        ∃ last, Timestamp.read expires = .ok last ∧ now ≤ last ∧
          supplied = (OfferToken.signatureOf secret id expires).text := by
  simp only [OfferToken.check, ite_throw_eq_ok_iff, bind_eq_ok_iff, mapError_eq_ok_iff,
    throw_unless_eq_ok_iff, OfferToken.isSigned, String.isEmpty_iff, Bool.not_eq_true,
    Bool.not_eq_eq_eq_not, Bool.not_true, decide_eq_false_iff_not, not_not,
    Timestamp.isPassedAt_eq_false_iff, ne_eq]

/-- The offer of a credential by an issuer that is valid from one time to another. -/
def CredentialOffer.between (id : String) (issuer : Did) (first last : Timestamp)
    (expires : String) : CredentialOffer where
  type := "CredentialOffer"
  preview := {
    context := [credentialsContext, "https://schema.org/"]
    id := id
    type := credentialType
    issuer := issuer.text
    issuanceDate := first
    expirationDate := last
    subject := none }
  expires := expires

theorem CredentialOffer.create_eq_ok_iff {id : String} {issuer : Did} {now : Timestamp}
    {validity : Timestamp.Span} {expires : String} {offer : CredentialOffer} :
    CredentialOffer.create id issuer now validity expires = .ok offer ↔
      ∃ last, now.plus validity = .ok last ∧ offer = .between id issuer now last expires := by
  simp only [CredentialOffer.create, bind_eq_ok_iff, pure_eq_ok_iff, CredentialOffer.between]

/-- An offer states the identifier that it is made for. -/
theorem CredentialOffer.id_of_create {id : String} {issuer : Did} {now : Timestamp}
    {validity : Timestamp.Span} {expires : String} {offer : CredentialOffer}
    (h : CredentialOffer.create id issuer now validity expires = .ok offer) : offer.id = id := by
  obtain ⟨last, -, rfl⟩ := create_eq_ok_iff.mp h
  rfl

/-- The members of a credential before it is signed. -/
def CredentialPreview.members (preview : CredentialPreview) : List (String × Json) :=
  Dictionary.ofList [("@context", .strings preview.context), ("id", .string preview.id),
    ("type", .string preview.type), ("issuer", .string preview.issuer),
    ("issuanceDate", .string preview.issuanceDate.text),
    ("expirationDate", .string preview.expirationDate.text),
    ("credentialSubject", .ofMembers (preview.subject.elim [] fun s => [("id", .string s)]))]

theorem CredentialPreview.toJson_eq (preview : CredentialPreview) :
    Record.toJson preview = .object preview.members := by
  obtain ⟨context, id, type, issuer, issued, expires, subject⟩ := preview
  cases subject with
  | none => rfl
  | some s => rfl

/-- What a signed credential states is what the credential stated before. -/
theorem CredentialPreview.stated_withProof (preview : CredentialPreview) (created : Timestamp)
    (options : ProofOptions) (pair : KeyPair) :
    let credential := Json.object (Proof.withProof created preview.members options pair)
    credential.text? "id" = some preview.id ∧ credential.text? "issuer" = some preview.issuer ∧
      credential.text? "issuanceDate" = some preview.issuanceDate.text ∧
      credential.text? "expirationDate" = some preview.expirationDate.text ∧
      credential.member? "credentialSubject" =
        some (.ofMembers (preview.subject.elim [] fun s => [("id", .string s)])) := by
  simp [Json.text?, Json.member?, Proof.withProof, members, Dictionary.find?_insert,
    Dictionary.find?_ofList, Dictionary.find?_cons, Json.string?]

namespace Offers

variable {clock now : Timestamp} {settings : Settings} {id expires supplied subject : String}
variable {fresh : KeyPair} {offer : CredentialOffer} {store : OfferStore}

theorem orInternal_eq_ok_iff {α : Type} {result : Except InputError α} {a : α} :
    orInternal result = .ok a ↔ result = .ok a :=
  mapError_eq_ok_iff

theorem didOf_eq_ok_iff {key : Jwk} {did : Did} :
    didOf (.ofClock clock) key = .ok did ↔
      ∃ k, key.publicKey = .ok k ∧ did = DidKey.ofPublicKey k := by
  simp only [didOf, Outcome.value_eq_ok_iff, Toolkit.ofClock, Outcome.done.injEq, DidKey.ofJwk]
  simp only [ne_eq, not_true_eq_false, if_false, bind_eq_ok_iff, pure_eq_ok_iff]

/-- A fresh identifier is the one of the fresh key. -/
theorem freshDid_eq : freshDid (.ofClock clock) fresh = .ok (DidKey.ofPublicKey fresh.publicKey) := by
  rw [freshDid, bind_eq_ok_iff]
  refine ⟨Jwk.ofKeyPair fresh, Outcome.value_eq_ok_iff.mpr rfl, ?_⟩
  exact didOf_eq_ok_iff.mpr ⟨fresh.publicKey, Jwk.publicKey_ofKeyPair fresh, rfl⟩

/-- A token is made whenever its end can be told. -/
theorem createToken_eq_ok_iff {token : OfferToken} :
    createToken (.ofClock clock) settings fresh now = .ok token ↔
      ∃ last, now.plus settings.offerTtl = .ok last ∧
        token = .sign settings.secret (DidKey.ofPublicKey fresh.publicKey).text last.text := by
  simp only [createToken, freshDid_eq, ok_bind, bind_eq_ok_iff, orInternal_eq_ok_iff,
    pure_eq_ok_iff]

theorem prepare_eq_ok_iff :
    prepare (.ofClock clock) settings id expires now = .ok offer ↔
      ∃ key last, settings.issuerKey.publicKey = .ok key ∧ now.plus settings.offerTtl = .ok last ∧
        offer = .between id (DidKey.ofPublicKey key) now last expires := by
  simp only [prepare, bind_eq_ok_iff, didOf_eq_ok_iff, orInternal_eq_ok_iff,
    CredentialOffer.create_eq_ok_iff]
  constructor
  · rintro ⟨-, ⟨key, hkey, rfl⟩, last, hlast, rfl⟩
    exact ⟨key, last, hkey, hlast, rfl⟩
  · rintro ⟨key, last, hkey, hlast, rfl⟩
    exact ⟨_, ⟨key, hkey, rfl⟩, last, hlast, rfl⟩

/-- The offer of a fresh identifier. -/
def prepareFresh (toolkit : Toolkit) (settings : Settings) (fresh : KeyPair) (now : Timestamp) :
    Except ExchangeError CredentialOffer := do
  let id ← freshDid toolkit fresh
  prepareDirect toolkit settings id.text now

theorem prepareFresh_eq_ok_iff :
    prepareFresh (.ofClock clock) settings fresh now = .ok offer ↔
      ∃ key last, settings.issuerKey.publicKey = .ok key ∧ now.plus settings.offerTtl = .ok last ∧
        offer = .between (DidKey.ofPublicKey fresh.publicKey).text (DidKey.ofPublicKey key) now last
          last.text := by
  simp only [prepareFresh, freshDid_eq, ok_bind, prepareDirect, bind_eq_ok_iff, didOf_eq_ok_iff,
    orInternal_eq_ok_iff, CredentialOffer.create_eq_ok_iff]
  constructor
  · rintro ⟨-, ⟨key, hkey, rfl⟩, last, hlast, last', hlast', rfl⟩
    rw [hlast, Except.ok.injEq] at hlast'
    exact ⟨key, last, hkey, hlast, by rw [hlast']⟩
  · rintro ⟨key, last, hkey, hlast, rfl⟩
    exact ⟨_, ⟨key, hkey, rfl⟩, last, hlast, last, hlast, rfl⟩

/-- A credential is issued exactly if the key of the settings is a private key whose
identifier is the issuer that the offer states. -/
theorem issue_eq_ok_iff {credential : Json} :
    issue (.ofClock clock) settings offer = .ok credential ↔
      ∃ issuer pair, issuer.text = offer.preview.issuer ∧
        settings.issuerKey = Jwk.ofKeyPair pair ∧
        DidKey.ofUrl issuer.verificationMethod = (DidKey.ofPublicKey pair.publicKey).text ∧
        credential =
          .object (Proof.withProof clock offer.preview.members (.assertion issuer) pair) := by
  simp only [issue, bind_eq_ok_iff, orInternal_eq_ok_iff, Did.read_eq_ok_iff, Outcome.result,
    Toolkit.ofClock, Except.ok.injEq, mapError_eq_ok_iff, CredentialPreview.toJson_eq,
    exists_eq_left', Proof.sign_eq_ok_iff, Json.object.injEq]
  constructor
  · rintro ⟨issuer, htext, -, pair, rfl, hkey, hurl, rfl⟩
    exact ⟨issuer, pair, htext, hkey, hurl, rfl⟩
  · rintro ⟨issuer, pair, htext, hkey, hurl, rfl⟩
    exact ⟨issuer, htext, _, pair, rfl, hkey, hurl, rfl⟩

/-- A credential is issued for an offer by the key that signs. -/
theorem issue_of_issuer {pair : KeyPair} (hkey : settings.issuerKey = Jwk.ofKeyPair pair)
    (hissuer : offer.preview.issuer = (DidKey.ofPublicKey pair.publicKey).text) :
    issue (.ofClock clock) settings offer =
      .ok (.object (Proof.withProof clock offer.preview.members
        (.assertion (DidKey.ofPublicKey pair.publicKey)) pair)) :=
  issue_eq_ok_iff.mpr
    ⟨_, pair, hissuer.symm, hkey, DidKey.ofUrl_verificationMethod pair.publicKey, rfl⟩

/-- The offer that a token unlocks, after the token has been checked. -/
def unlock (toolkit : Toolkit) (settings : Settings) (id expires supplied : String)
    (now : Timestamp) : Except ExchangeError CredentialOffer := do
  OfferToken.check settings.secret id expires supplied now
  prepare toolkit settings id expires now

/-- An offer that is unlocked has the identifier that was handed in. -/
theorem id_of_unlock {toolkit : Toolkit}
    (h : unlock toolkit settings id expires supplied now = .ok offer) : offer.id = id := by
  simp only [unlock, prepare, bind_eq_ok_iff, orInternal_eq_ok_iff] at h
  obtain ⟨-, -, issuer, -, hcreate⟩ := h
  exact CredentialOffer.id_of_create hcreate

/-- A redemption keeps the offer that is unlocked, under the offer's own identifier. -/
theorem redeem_of_unlock {toolkit : Toolkit}
    (h : unlock toolkit settings id expires supplied now = .ok offer) :
    redeem toolkit settings id expires supplied now store =
      (.ok offer, keep store offer.id offer) := by
  rw [id_of_unlock h]
  rw [unlock] at h
  rw [redeem, h]

theorem redeem_of_unlock_error {toolkit : Toolkit} {e : ExchangeError}
    (h : unlock toolkit settings id expires supplied now = .error e) :
    redeem toolkit settings id expires supplied now store = (.error e, store) := by
  rw [unlock] at h
  rw [redeem, h]

/-- A redemption answers with what the token unlocks. -/
theorem fst_redeem {toolkit : Toolkit} :
    (redeem toolkit settings id expires supplied now store).1 =
      unlock toolkit settings id expires supplied now := by
  cases hunlock : unlock toolkit settings id expires supplied now with
  | ok offer => rw [redeem_of_unlock hunlock]
  | error e => rw [redeem_of_unlock_error hunlock]

theorem unlock_eq_ok_iff :
    unlock (.ofClock clock) settings id expires supplied now = .ok offer ↔
      OfferToken.check settings.secret id expires supplied now = .ok () ∧
        prepare (.ofClock clock) settings id expires now = .ok offer := by
  rw [unlock, bind_eq_ok_iff]
  constructor
  · rintro ⟨⟨⟩, hcheck, hprepare⟩
    exact ⟨hcheck, hprepare⟩
  · rintro ⟨hcheck, hprepare⟩
    exact ⟨(), hcheck, hprepare⟩

/-- A redemption puts the offer that it answers with under the identifier, and nothing elsewhere. -/
theorem stored?_redeem (toolkit : Toolkit) (key : String) :
    (redeem toolkit settings id expires supplied now store).2.stored? key =
      match unlock toolkit settings id expires supplied now with
      | .ok offer =>
          if id = key then some ⟨offer, offer.preview.expirationDate⟩ else store.stored? key
      | .error _ => store.stored? key := by
  cases hunlock : unlock toolkit settings id expires supplied now with
  | ok offer => rw [redeem_of_unlock hunlock, keep, Registry.stored?_put, id_of_unlock hunlock]
  | error e => rw [redeem_of_unlock_error hunlock]

/-- An offer that is made without a token has the identifier that it is made for. -/
theorem id_of_prepareDirect {toolkit : Toolkit}
    (h : prepareDirect toolkit settings id now = .ok offer) : offer.id = id := by
  simp only [prepareDirect, bind_eq_ok_iff, orInternal_eq_ok_iff] at h
  obtain ⟨issuer, -, last, -, hcreate⟩ := h
  exact CredentialOffer.id_of_create hcreate

/-- What is issued without a token is kept under the identifier that the offer states. -/
theorem issueDirect_of_prepareFresh {toolkit : Toolkit}
    (h : prepareFresh toolkit settings fresh now = .ok offer) :
    issueDirect toolkit settings fresh now store =
      (issue toolkit settings offer, keep store offer.id offer) := by
  obtain ⟨did, hfresh, hprepare⟩ := bind_eq_ok_iff.mp h
  rw [id_of_prepareDirect hprepare, issueDirect, hfresh]
  simp only [hprepare]

theorem issueDirect_of_prepareFresh_error {toolkit : Toolkit} {e : ExchangeError}
    (h : prepareFresh toolkit settings fresh now = .error e) :
    issueDirect toolkit settings fresh now store = (.error e, store) := by
  rw [prepareFresh] at h
  rw [issueDirect]
  cases hfresh : freshDid toolkit fresh with
  | error e' =>
      rw [hfresh] at h
      cases h
      rfl
  | ok did =>
      rw [hfresh, ok_bind] at h
      simp only [h]

theorem bindAndIssue_of_live {toolkit : Toolkit} {entry : Registry.Entry CredentialOffer}
    (hsubject : subject ≠ "") (hid : id ≠ "") (hentry : store.stored? id = some entry)
    (hlive : now ≤ entry.expiry) :
    bindAndIssue toolkit settings id subject now store =
      (issue toolkit settings (entry.value.bind subject),
        store.set id { entry with value := entry.value.bind subject }) := by
  have hupdate := Registry.update_of_live (CredentialOffer.bind subject)
    (Registry.live?_eq_some_iff.mpr ⟨hentry, hlive⟩)
  rw [bindAndIssue, if_neg (by simpa using hsubject), if_neg (by simpa using hid), hupdate]

/-- The credential that a signing key issues to a subject from a live offer of its own. -/
theorem bindAndIssue_of_issuer {entry : Registry.Entry CredentialOffer} {pair : KeyPair}
    (hkey : settings.issuerKey = Jwk.ofKeyPair pair)
    (hissuer : entry.value.preview.issuer = (DidKey.ofPublicKey pair.publicKey).text)
    (hsubject : subject ≠ "") (hid : id ≠ "") (hentry : store.stored? id = some entry)
    (hlive : now ≤ entry.expiry) :
    (bindAndIssue (.ofClock clock) settings id subject now store).1 =
      .ok (.object (Proof.withProof clock (entry.value.bind subject).preview.members
        (.assertion (DidKey.ofPublicKey pair.publicKey)) pair)) := by
  rw [bindAndIssue_of_live hsubject hid hentry hlive]
  exact issue_of_issuer hkey hissuer

/-- A binding is refused before it writes anything, for what it lacks, or it binds the subject to a
live offer and comes to what the issuing comes to. -/
theorem bindAndIssue_cases (toolkit : Toolkit) (settings : Settings) (id subject : String)
    (now : Timestamp) (store : OfferStore) :
    (∃ e, ((∃ name, e = .missingField name) ∨ e = .unknownOffer id) ∧
      bindAndIssue toolkit settings id subject now store = (.error e, store)) ∨
    ∃ entry, subject ≠ "" ∧ id ≠ "" ∧ store.live? id now = some entry ∧
      bindAndIssue toolkit settings id subject now store =
        (issue toolkit settings (entry.value.bind subject),
          store.set id { entry with value := entry.value.bind subject }) := by
  by_cases hsubject : subject = ""
  · refine .inl ⟨.missingField "subject_id", .inl ⟨_, rfl⟩, ?_⟩
    rw [bindAndIssue, if_pos (by simpa using hsubject)]
  by_cases hid : id = ""
  · refine .inl ⟨.missingField "id", .inl ⟨_, rfl⟩, ?_⟩
    rw [bindAndIssue, if_neg (by simpa using hsubject), if_pos (by simpa using hid)]
  cases hlive : store.live? id now with
  | none =>
      refine .inl ⟨.unknownOffer id, .inr rfl, ?_⟩
      rw [bindAndIssue, if_neg (by simpa using hsubject), if_neg (by simpa using hid),
        Registry.update_of_not_live _ hlive]
  | some entry =>
      obtain ⟨hentry, hnow⟩ := Registry.live?_eq_some_iff.mp hlive
      exact .inr ⟨entry, hsubject, hid, rfl, bindAndIssue_of_live hsubject hid hentry hnow⟩

/-- The answer to a binding depends on the live offer alone. -/
theorem fst_bindAndIssue_congr {toolkit : Toolkit} {store' : OfferStore}
    (h : store.live? id now = store'.live? id now) :
    (bindAndIssue toolkit settings id subject now store).1 =
      (bindAndIssue toolkit settings id subject now store').1 := by
  rw [bindAndIssue, bindAndIssue]
  split
  · rfl
  split
  · rfl
  cases hlive : store'.live? id now with
  | none => rw [Registry.update_of_not_live _ hlive, Registry.update_of_not_live _ (h.trans hlive)]
  | some entry => rw [Registry.update_of_live _ hlive, Registry.update_of_live _ (h.trans hlive)]

/-- A credential is issued to a subject only from a live offer. -/
theorem exists_entry_of_bindAndIssue {toolkit : Toolkit} {credential : Json}
    (h : (bindAndIssue toolkit settings id subject now store).1 = .ok credential) :
    ∃ entry, store.stored? id = some entry ∧ now ≤ entry.expiry ∧
      issue toolkit settings (entry.value.bind subject) = .ok credential := by
  rcases bindAndIssue_cases toolkit settings id subject now store with
    ⟨e, -, hstep⟩ | ⟨entry, -, -, hlive, hstep⟩
  · rw [hstep] at h
    cases h
  · rw [hstep] at h
    obtain ⟨hentry, hnow⟩ := Registry.live?_eq_some_iff.mp hlive
    exact ⟨entry, hentry, hnow, h⟩

/-- Binding a subject changes the store as an update under the identifier does. -/
theorem snd_bindAndIssue {toolkit : Toolkit} :
    (bindAndIssue toolkit settings id subject now store).2 =
      if subject = "" ∨ id = "" then store
      else (store.update id now (CredentialOffer.bind subject)).2 := by
  rw [bindAndIssue]
  by_cases hsubject : subject = ""
  · simp [hsubject]
  by_cases hid : id = ""
  · simp [hid, hsubject]
  simp only [String.isEmpty_iff, hsubject, hid, if_false, or_self]
  cases hlive : store.live? id now with
  | none => rw [Registry.update_of_not_live _ hlive]
  | some entry => rw [Registry.update_of_live _ hlive]

end Offers

end WalletCredentials
