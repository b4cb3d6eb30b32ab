import WalletCredentials.Proofs.Json.Values
import WalletCredentials.Proofs.SignIn.Acceptance
import WalletCredentials.Proofs.Timestamp.Text

/-!
# Honest answers

A holder wraps a credential of its own into a presentation, signs it for the challenge and
the domain and hands in its text. The text is read back as what was signed, so that the
answer is accepted wherever a request with the challenge is kept.
-/

namespace WalletCredentials

open Ed25519

/-! ## Signed documents as texts -/

namespace Proof

theorem sorted_unsignedMembers (created : Timestamp) (options : ProofOptions) :
    Dictionary.Sorted (unsignedMembers created options) :=
  .ofList _

theorem survives_unsignedMembers {created : Timestamp} {options : ProofOptions}
    {m : String × Json} (h : m ∈ unsignedMembers created options) {depth : Nat} :
    Json.Survives depth m.2 := by
  have hmem := Dictionary.mem_ofList h
  simp only [ProofPurpose.toJson_eq, List.mem_append, List.mem_cons, List.not_mem_nil,
    or_false] at hmem
  rcases hmem with ((rfl | rfl | rfl | rfl) | hmem) | hmem
  · exact .string _
  · exact .string _
  · exact .string _
  · exact .string _
  -- The challenge and the domain are stated only where the options name them.
  · cases hchallenge : options.challenge with
    | none =>
        rw [hchallenge] at hmem
        cases hmem
    | some challenge =>
        rw [hchallenge] at hmem
        rw [List.mem_singleton.mp hmem]
        exact .string challenge
  · cases hdomain : options.domain with
    | none =>
        rw [hdomain] at hmem
        cases hmem
    | some domain =>
        rw [hdomain] at hmem
        rw [List.mem_singleton.mp hmem]
        exact .string domain

/-- A proof comes through its text unchanged. -/
theorem survives_signedMembers (created : Timestamp) (members : List (String × Json))
    (options : ProofOptions) (pair : KeyPair) :
    Json.Survives 1 (.object (signedMembers created members options pair)) := by
  refine .object (sorted_unsignedMembers created options).insert fun m hm => ?_
  rcases Dictionary.mem_insert hm with rfl | hm
  · exact .string _
  · exact survives_unsignedMembers hm

/-- A signed document comes through its text unchanged if the document does. -/
theorem survives_withProof {created : Timestamp} {members : List (String × Json)}
    {options : ProofOptions} {pair : KeyPair} {depth : Nat} (hsorted : Dictionary.Sorted members)
    (h : ∀ m ∈ members, Json.Survives (depth + 1) m.2) :
    Json.Survives (depth + 2) (.object (withProof created members options pair)) := by
  refine .object hsorted.insert fun m hm => ?_
  rcases Dictionary.mem_insert hm with rfl | hm
  · exact (survives_signedMembers created members options pair).mono (by omega)
  · exact h m hm

end Proof

/-- The members of a credential come through their text unchanged. -/
theorem CredentialPreview.survives_members (preview : CredentialPreview) :
    ∀ m ∈ preview.members, Json.Survives 1 m.2 := by
  intro m hm
  have hmem := Dictionary.mem_ofList hm
  simp only [List.mem_cons, List.not_mem_nil, or_false] at hmem
  rcases hmem with rfl | rfl | rfl | rfl | rfl | rfl | rfl
  · exact .strings _
  · exact .string _
  · exact .string _
  · exact .string _
  · exact .string _
  · exact .string _
  · refine .object (.ofList _) fun m' hm' => ?_
    have hmem' := Dictionary.mem_ofList hm'
    cases hs : preview.subject with
    | none =>
        rw [hs] at hmem'
        cases hmem'
    | some s =>
        rw [hs] at hmem'
        rw [List.mem_singleton.mp hmem']
        exact .string s

/-- A credential comes through its text unchanged. -/
theorem CredentialPreview.survives_withProof (preview : CredentialPreview) (created : Timestamp)
    (options : ProofOptions) (pair : KeyPair) :
    Json.Survives 2 (.object (Proof.withProof created preview.members options pair)) :=
  Proof.survives_withProof (.ofList _) preview.survives_members

namespace SignIn

/-- A credential that its issuer has signed for a subject counts until its end. -/
theorem isCredentialOf_withProof {preview : CredentialPreview} {issuer : KeyPair} {subject : String}
    {created clock : Timestamp}
    (hissuer : preview.issuer = (DidKey.ofPublicKey issuer.publicKey).text)
    (hsubject : preview.subject = some subject)
    (hyear : preview.expirationDate.HasFourDigitYear) (hclock : clock ≤ preview.expirationDate) :
    IsCredentialOf subject clock (.object (Proof.withProof created preview.members
      (.assertion (DidKey.ofPublicKey issuer.publicKey)) issuer)) := by
  obtain ⟨-, hstated, -, hexpires, hvalue⟩ := preview.stated_withProof created
    (.assertion (DidKey.ofPublicKey issuer.publicKey)) issuer
  constructor
  · refine ⟨_, _, issuer.publicKey, rfl, Proof.isValid_withProof created _ _ issuer
      (DidKey.ofUrl_verificationMethod _), ?_⟩
    rw [hstated, hissuer]
  · intro stated h
    rw [hexpires, Option.some.injEq] at h
    subst h
    exact ⟨_, Timestamp.read_text hyear, hclock⟩
  · rw [hvalue, hsubject]
    exact ⟨_, rfl, rfl⟩

/-! ## Presentations -/

/-- The members of a presentation of a credential by a holder, with others of its own. -/
def presentationMembers (others : List (String × Json)) (holder : Did) (wrapped : Json) :
    List (String × Json) :=
  Dictionary.insert "holder" (.string holder.text)
    (Dictionary.insert "verifiableCredential" wrapped others)

/-- Tells that a value wraps a credential: it is the credential or an array of it. -/
def Wraps (wrapped credential : Json) : Prop := wrapped = credential ∨ wrapped = .array [credential]

variable {created clock now : Timestamp} {challenge domain : String} {store : RequestStore}
variable {others : List (String × Json)} {holder : KeyPair} {wrapped credential : Json}

/-- The text that a holder hands in: its presentation, signed for a challenge and a domain. -/
def presentationText (created : Timestamp) (others : List (String × Json)) (holder : KeyPair)
    (wrapped : Json) (challenge domain : String) : String :=
  let did := DidKey.ofPublicKey holder.publicKey
  Json.text (.object (Proof.withProof created (presentationMembers others did wrapped)
    (.authentication did challenge domain) holder))

/-- The toolkit signs every presentation of a holder with the key of the holder. -/
theorem sign_presentationMembers :
    let did := DidKey.ofPublicKey holder.publicKey
    Proof.sign created (.object (presentationMembers others did wrapped))
        (.authentication did challenge domain) (.ofKeyPair holder) =
      .ok (.object (Proof.withProof created (presentationMembers others did wrapped)
        (.authentication did challenge domain) holder)) :=
  Proof.sign_eq_ok_iff.mpr ⟨_, holder, rfl, rfl, DidKey.ofUrl_verificationMethod _, rfl⟩

/-- The text of a presentation is read back as what was signed. -/
theorem read?_presentationText (hsorted : Dictionary.Sorted others)
    (hothers : ∀ m ∈ others, Json.Survives 126 m.2) (hwraps : Wraps wrapped credential)
    (hcredential : Json.Survives 2 credential) :
    let did := DidKey.ofPublicKey holder.publicKey
    Json.read? (presentationText created others holder wrapped challenge domain) =
      some (.object (Proof.withProof created (presentationMembers others did wrapped)
        (.authentication did challenge domain) holder)) := by
  have hwrapped : Json.Survives 3 wrapped := by
    rcases hwraps with rfl | rfl
    · exact hcredential.mono (by decide)
    · refine .array fun v hv => ?_
      rw [List.mem_singleton.mp hv]
      exact hcredential
  refine Json.Survives.read?_text (Proof.survives_withProof hsorted.insert.insert fun m hm => ?_)
  rcases Dictionary.mem_insert hm with rfl | hm
  · exact .string _
  rcases Dictionary.mem_insert hm with rfl | hm
  · exact hwrapped.mono (by decide)
  · exact hothers m hm

/-- What a holder signs is the answer of its key to the challenge for the domain. -/
theorem isAnswerOf_withProof :
    let did := DidKey.ofPublicKey holder.publicKey
    IsAnswerOf holder.publicKey challenge domain
      (Proof.withProof created (presentationMembers others did wrapped)
        (.authentication did challenge domain) holder) := by
  intro did
  obtain ⟨-, -, hchallenge, hdomain⟩ :=
    Proof.text?_unsignedMembers created (.authentication did challenge domain)
  refine ⟨⟨_, Proof.isValid_withProof created _ _ holder (DidKey.ofUrl_verificationMethod _),
    ?_, ?_⟩, ?_⟩
  · rw [Json.text?, Json.member?, Proof.find?_signedMembers _ _ _ _ _ (by decide)]
    exact hdomain
  · rw [Json.text?, Json.member?, Proof.find?_signedMembers _ _ _ _ _ (by decide)]
    exact hchallenge
  · simp [Json.text?, Json.member?, Proof.withProof, presentationMembers, Dictionary.find?_insert,
      Json.string?]
    rfl

theorem holds_withProof {options : ProofOptions} {did : Did} (hwraps : Wraps wrapped credential) :
    Holds (Proof.withProof created (presentationMembers others did wrapped) options holder)
      credential := by
  have hmember : (Json.object (Proof.withProof created (presentationMembers others did wrapped)
      options holder)).member? "verifiableCredential" = some wrapped := by
    simp [Json.member?, Proof.withProof, presentationMembers, Dictionary.find?_insert]
  rcases hwraps with rfl | rfl
  · exact .inl hmember
  · exact .inr ⟨[], hmember⟩

/-- An honest answer to a request that is kept is accepted. -/
theorem verifyPresentation_presentationText {request : SignInRequest} (hchallenge : challenge ≠ "")
    (hrequest : store.get? challenge now = some request) (hown : request.challenge = challenge)
    (hsorted : Dictionary.Sorted others) (hothers : ∀ m ∈ others, Json.Survives 126 m.2)
    (hwraps : Wraps wrapped credential) (hsurvives : Json.Survives 2 credential)
    (hcredential :
      IsCredentialOf (DidKey.ofPublicKey holder.publicKey).text clock credential) :
    verifyPresentation (.ofClock clock) challenge
      (presentationText created others holder wrapped challenge domain) domain now store = .ok () :=
  verifyPresentation_eq_ok_iff_get?.mpr ⟨hchallenge, _, request, holder.publicKey, credential,
    read?_presentationText hsorted hothers hwraps hsurvives, hrequest, hown ▸ isAnswerOf_withProof,
    holds_withProof hwraps, hcredential⟩

end SignIn

end WalletCredentials
