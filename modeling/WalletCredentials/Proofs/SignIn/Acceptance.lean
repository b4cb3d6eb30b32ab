import WalletCredentials.Proofs.Exchange.Run
import WalletCredentials.Proofs.Proof.Verification

/-!
# Accepted answers

A sign-in is accepted exactly if a list of conditions holds: on the stored request, on the
presentation and its proof, and on the credential in it. The conditions do not mention the
order in which the service looks at things.
-/

namespace WalletCredentials.SignIn

variable {clock now : Timestamp} {challenge text domain : String} {store : RequestStore}

/-- What makes a value a credential of a subject that counts at a time: its issuer has signed
it, the end of its validity, if it states one, can be read and has not passed, and it names
the subject. -/
structure IsCredentialOf (subject : String) (clock : Timestamp) (credential : Json) : Prop where
  signed : ∃ members proof key, credential = .object members ∧
    Proof.IsValid members proof .assertion key ∧
    credential.text? "issuer" = some (DidKey.ofPublicKey key).text
  unexpired : ∀ stated, credential.text? "expirationDate" = some stated →
    ∃ last, Timestamp.read stated = .ok last ∧ clock ≤ last
  names_subject : ∃ value, credential.member? "credentialSubject" = some value ∧
    value.text? "id" = some subject

/-- What makes the members of a presentation the answer of a key to a challenge for a
domain. -/
structure IsAnswerOf (key : Ed25519.PublicKey) (challenge domain : String)
    (members : List (String × Json)) : Prop where
  signed : ∃ proof, Proof.IsValid members proof .authentication key ∧
    (Json.object proof).text? "domain" = some domain ∧
    (Json.object proof).text? "challenge" = some challenge
  names_holder : (Json.object members).text? "holder" = some (DidKey.ofPublicKey key).text

/-- Tells that a presentation holds a credential: as it is, or as the first of several. -/
def Holds (members : List (String × Json)) (credential : Json) : Prop :=
  (Json.object members).member? "verifiableCredential" = some credential ∨
    ∃ others, (Json.object members).member? "verifiableCredential" =
      some (.array (credential :: others))

theorem readPresentation_eq_ok_iff {presentation : Json} :
    readPresentation text = .ok presentation ↔
      ∃ members, presentation = .object members ∧ Json.read? text = some (.object members) := by
  rw [readPresentation]
  constructor
  · intro h
    split at h
    · rename_i members hread
      cases h
      exact ⟨members, rfl, hread⟩
    · cases h
    · cases h
  · rintro ⟨members, rfl, hread⟩
    rw [hread]

theorem embeddedCredential_eq_ok_iff {presentation credential : Json} :
    embeddedCredential presentation = .ok credential ↔
      embeddedCredential? presentation = some credential := by
  rw [embeddedCredential]
  cases embeddedCredential? presentation with
  | none => simp
  | some credential' => simp

/-- An object is the credential of a presentation exactly if the presentation holds it. -/
theorem embeddedCredential?_eq_some_iff {members inner : List (String × Json)} :
    embeddedCredential? (.object members) = some (.object inner) ↔ Holds members (.object inner) := by
  rw [embeddedCredential?, Holds]
  constructor
  · intro h
    split at h
    · rename_i items hmember
      obtain ⟨others, rfl⟩ := List.head?_eq_some_iff.mp h
      exact .inr ⟨others, hmember⟩
    · cases h
    · exact .inl h
  · rintro (h | ⟨others, h⟩)
    · rw [h]
    · rw [h]
      rfl

theorem subject?_eq_some_iff {credential : Json} {subject : String} :
    subject? credential = some subject ↔
      ∃ value, credential.member? "credentialSubject" = some value ∧
        value.text? "id" = some subject := by
  rw [subject?, Option.bind_eq_some_iff]

theorem read?_empty : Json.read? "" = none := by decide

/-- The conditions under which a sign-in is accepted, for any store of requests. -/
theorem verifyPresentation_eq_ok_iff_get? :
    verifyPresentation (.ofClock clock) challenge text domain now store = .ok () ↔
      challenge ≠ "" ∧ ∃ members request key credential,
        Json.read? text = some (.object members) ∧
        store.get? challenge now = some request ∧
        IsAnswerOf key request.challenge domain members ∧ Holds members credential ∧
        IsCredentialOf (DidKey.ofPublicKey key).text clock credential := by
  simp only [verifyPresentation, ite_throw_eq_ok_iff, bind_eq_ok_iff, Outcome.value_eq_ok_iff,
    Toolkit.ofClock, String.isEmpty_iff, Outcome.done.injEq, Except.ok.injEq, exists_eq_left',
    Bool.not_eq_eq_eq_not, Bool.not_true, Bool.not_eq_false, throw_unless_eq_ok_iff,
    Proof.isVerified_verifyPresentation_iff, Proof.isVerified_verifyCredential_iff,
    readPresentation_eq_ok_iff, embeddedCredential_eq_ok_iff, not_or, not_not]
  constructor
  · rintro ⟨hchallenge, -, -, ⟨members, rfl, hread⟩, ⟨members', proof, key, request, hmembers,
      hvalid, hrequest, hdomain, hanswer, hholder⟩, credential, hembedded, ⟨hsigned, hunexpired⟩,
      hstated, hsubject⟩
    cases hmembers
    obtain ⟨stated, hstated⟩ := Option.ne_none_iff_exists'.mp hstated
    obtain rfl := hholder stated hstated
    obtain ⟨inner, -, -, rfl, -⟩ := id hsigned
    rw [hstated, eq_comm, subject?_eq_some_iff] at hsubject
    exact ⟨hchallenge, members, request, key, .object inner, hread, hrequest,
      ⟨⟨proof, hvalid, hdomain, hanswer⟩, hstated⟩, embeddedCredential?_eq_some_iff.mp hembedded,
      hsigned, hunexpired, hsubject⟩
  · rintro ⟨hchallenge, members, request, key, credential, hread, hrequest, hanswer, hholds, hcred⟩
    obtain ⟨proof, hvalid, hdomain, hproof⟩ := hanswer.signed
    obtain ⟨inner, -, -, rfl, -⟩ := id hcred.signed
    have htext : text ≠ "" := by
      rintro rfl
      rw [read?_empty] at hread
      cases hread
    have hholder := hanswer.names_holder
    refine ⟨hchallenge, htext, _, ⟨members, rfl, hread⟩, ⟨members, proof, key, request, rfl,
      hvalid, hrequest, hdomain, hproof, ?_⟩, .object inner,
      embeddedCredential?_eq_some_iff.mpr hholds, ⟨hcred.signed, hcred.unexpired⟩, ?_, ?_⟩
    · intro stated hstated
      rw [hholder, Option.some.injEq] at hstated
      exact hstated.symm
    · rw [hholder]
      exact Option.some_ne_none _
    · rw [hholder, subject?_eq_some_iff.mpr hcred.names_subject]

/-- A request is kept under its own challenge, along every run. -/
theorem challenge_eq_of_stored {settings : Settings} {events : List Event} {key : String}
    {entry : Registry.Entry SignInRequest}
    (h : (Stores.empty.after settings events).requests.stored? key = some entry) :
    entry.value.challenge = key := by
  obtain ⟨-, event, -, -, ⟨-, hkey⟩, -⟩ := Stores.exists_requested_of_entry h
  exact hkey

/-- In every state that the services can come to, a sign-in is accepted exactly if its
challenge is not empty and is still kept with a request, the text is that of an object which
a key has signed for the challenge and the domain and which names the identifier of the key
as its holder, and the credential in it counts and was issued to that holder. -/
theorem verifyPresentation_eq_ok_iff (settings : Settings) (events : List Event)
    (challenge text domain : String) (now clock : Timestamp) :
    verifyPresentation (.ofClock clock) challenge text domain now
        (Stores.empty.after settings events).requests = .ok () ↔
      challenge ≠ "" ∧
      (∃ entry, (Stores.empty.after settings events).requests.stored? challenge = some entry ∧
        now ≤ entry.expiry) ∧
      ∃ members key credential,
        Json.read? text = some (.object members) ∧
        IsAnswerOf key challenge domain members ∧ Holds members credential ∧
        IsCredentialOf (DidKey.ofPublicKey key).text clock credential := by
  rw [verifyPresentation_eq_ok_iff_get?]
  refine and_congr_right fun _ => ?_
  constructor
  · rintro ⟨members, request, key, credential, hread, hrequest, hanswer, hholds, hcred⟩
    obtain ⟨expiry, hentry, hnow⟩ := Registry.get?_eq_some_iff.mp hrequest
    rw [show request.challenge = challenge from challenge_eq_of_stored hentry] at hanswer
    exact ⟨⟨_, hentry, hnow⟩, members, key, credential, hread, hanswer, hholds, hcred⟩
  · rintro ⟨⟨⟨request, expiry⟩, hentry, hnow⟩, members, key, credential, hread, hanswer, hholds,
      hcred⟩
    rw [← show request.challenge = challenge from challenge_eq_of_stored hentry] at hanswer
    exact ⟨members, request, key, credential, hread,
      Registry.get?_eq_some_iff.mpr ⟨expiry, hentry, hnow⟩, hanswer, hholds, hcred⟩

end WalletCredentials.SignIn
