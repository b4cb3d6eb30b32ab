import WalletCredentials.Jwk
import WalletCredentials.Offer.Credential
import WalletCredentials.Proof.Options
import WalletCredentials.Proofs.Record.RoundTrip

/-!
# Records survive their JSON

A key, an offer, a sign-in request and the options and results of proofs are read back from each
of their encodings. What a record leaves out where it holds nothing is told apart from an empty
text by the member itself.
-/

namespace WalletCredentials

/-- A type of records that are read back from their values and have a clear shape. -/
class LawfulRecord (α : Type) [Record α] : Prop where
  ofValue_toValue : ∀ a : α, Record.ofValue (Record.toValue a) = a
  isClear : (Record.shape α).isClear = true
  nesting_le : (Record.shape α).nesting ≤ Json.maxDepth

namespace Record

section

variable {α : Type} [Record α]

/-- Tells that JSON encodes a record, the members of each object in any order. -/
def Encodes (a : α) (j : Json) : Prop := (shape α).Encodes (toValue a) j

/-- Tells that the years of all times in a record have four digits. -/
def IsDated (a : α) : Prop := (shape α).IsDated (toValue a)

/-- Tells that a record is read back from its JSON, and from each of its encodings, which so are
those of no other record. -/
structure Survives (a : α) : Prop where
  toJson : read (Json.text (toJson a)) = .ok a
  encoding : ∀ j, Encodes a j → read (Json.text j) = .ok a
  unique : ∀ j, Encodes a j → ∀ b : α, IsDated b → Encodes b j → b = a

/-- Tells that the encodings of a record have a member for a text, an empty one too, and none for no
text. -/
def Shows (a : α) (name : String) (text : Option String) : Prop :=
  ∀ j, Encodes a j → j.member? name = text.map .string

theorem survives_of_isDated [LawfulRecord α] {a : α} (h : IsDated a) : Survives a := by
  have hread (b : α) (hb : IsDated b) (j : Json) (hj : Encodes b j) :
      read (Json.text j) = .ok b := by
    rw [read, Shape.readAll_text LawfulRecord.isClear hb hj LawfulRecord.nesting_le, Except.map,
      LawfulRecord.ofValue_toValue]
  refine ⟨hread a h _ ((shape α).encodes_toJson LawfulRecord.isClear _), hread a h, ?_⟩
  intro j hj b hb hbj
  have hboth := hread b hb j hbj
  rw [hread a h j hj, Except.ok.injEq] at hboth
  exact hboth.symm

/-- A record without times survives. -/
theorem survives_of_isTimeless [LawfulRecord α] (h : (shape α).isTimeless = true) (a : α) :
    Survives a :=
  survives_of_isDated ((shape α).isDated_of_isTimeless h _)

end

end Record

/-! ## The records of the exchange -/

instance : LawfulRecord Jwk := ⟨fun _ => rfl, rfl, by decide⟩

instance : LawfulRecord CredentialOffer := ⟨fun _ => rfl, rfl, by decide⟩

instance : LawfulRecord SignInRequest := ⟨fun _ => rfl, rfl, by decide⟩

instance : LawfulRecord ProofOptions where
  ofValue_toValue := fun ⟨purpose, _, _, _⟩ => by cases purpose <;> rfl
  isClear := rfl
  nesting_le := by decide

instance : LawfulRecord VerifyOptions where
  ofValue_toValue := fun ⟨request, _, purpose⟩ => by cases purpose <;> cases request <;> rfl
  isClear := rfl
  nesting_le := by decide

instance : LawfulRecord VerificationResult := ⟨fun _ => rfl, rfl, by decide⟩

open Record (Encodes Survives Shows)

namespace Jwk

/-- The text of a key has its members in the order of the fields. -/
theorem read_text (key : Jwk) : read key.text = .ok key := by
  have hencodes : Encodes key (.object (fields.members key.values)) :=
    ⟨_, _, rfl, fields.encode_members rfl _, .refl _⟩
  rw [read, text, (Record.survives_of_isTimeless rfl key).encoding _ hencodes, mapError_ok]

theorem shows_seed (key : Jwk) : Shows key "d" key.d := fun _ h =>
  Fields.Has.member?_optional (.later <| .later <| .later .first) (by decide) h

end Jwk

namespace CredentialOffer

/-- An offer survives if the years of its two dates have four digits. -/
theorem survives {offer : CredentialOffer} (hissued : offer.preview.issuanceDate.HasFourDigitYear)
    (hexpires : offer.preview.expirationDate.HasFourDigitYear) : Survives offer := by
  have htexts (texts : List String) : (Shape.list .text).IsDated texts :=
    Shape.isDated_of_isTimeless _ rfl _
  have hsubject : CredentialPreview.subjectShape.IsDated (offer.preview.subject, ()) :=
    Shape.isDated_of_isTimeless _ rfl _
  exact Record.survives_of_isDated ⟨trivial, ⟨htexts _, trivial, trivial, trivial, hissued,
    hexpires, hsubject, trivial⟩, trivial, trivial⟩

/-- Tells that the encodings of an offer name the wallet it is bound to, and no wallet before. -/
def ShowsSubject (offer : CredentialOffer) : Prop :=
  ∀ j, Encodes offer j → ∃ preview subject, j.member? "credentialPreview" = some preview ∧
    preview.member? "credentialSubject" = some subject ∧
    subject.member? "id" = offer.preview.subject.map .string

theorem showsSubject (offer : CredentialOffer) : offer.ShowsSubject := by
  intro j h
  obtain ⟨preview, hpreview, hmember⟩ :=
    Fields.Has.member?_plain (.later .first) (by decide) h
  obtain ⟨subject, hsubject, hmember'⟩ := Fields.Has.member?_plain
    (.later <| .later <| .later <| .later <| .later <| .later .first) (by decide) hpreview
  exact ⟨preview, subject, hmember, hmember',
    Fields.Has.member?_optional .first (by decide) hsubject⟩

end CredentialOffer

theorem ProofOptions.shows_challenge (options : ProofOptions) :
    Shows options "challenge" options.challenge := fun _ h =>
  Fields.Has.member?_optional (.later <| .later .first) (by decide) h

theorem ProofOptions.shows_domain (options : ProofOptions) :
    Shows options "domain" options.domain := fun _ h =>
  Fields.Has.member?_optional (.later <| .later <| .later .first) (by decide) h

namespace VerifyOptions

/-- Tells that the encodings of options have the request as the challenge, and null for none. -/
def ShowsRequest (options : VerifyOptions) : Prop :=
  ∀ j, Encodes options j → ∃ challenge, j.member? "challenge" = some challenge ∧
    match options.request with
    | none => challenge = .null
    | some request => Encodes request challenge

theorem showsRequest (options : VerifyOptions) : options.ShowsRequest := by
  intro j h
  obtain ⟨challenge, hchallenge, hmember⟩ := Fields.Has.member?_plain .first (by decide) h
  refine ⟨challenge, hmember, ?_⟩
  obtain ⟨request, domain, purpose⟩ := options
  cases request with
  | none => exact hchallenge
  | some request => exact hchallenge

end VerifyOptions

/-- Keys, requests and the options and results of proofs survive their JSON, and so do offers whose
dates have years of four digits. A text that may be absent has a member exactly if it is there, and
only where no request is stored the challenge is null instead. -/
theorem Record.survive_json :
    (∀ key : Jwk, Jwk.read key.text = .ok key ∧ Survives key ∧ Shows key "d" key.d) ∧
    (∀ offer : CredentialOffer, offer.preview.issuanceDate.HasFourDigitYear →
      offer.preview.expirationDate.HasFourDigitYear → Survives offer ∧ offer.ShowsSubject) ∧
    (∀ request : SignInRequest, Survives request) ∧
    (∀ options : ProofOptions, Survives options ∧
      Shows options "challenge" options.challenge ∧ Shows options "domain" options.domain) ∧
    (∀ options : VerifyOptions, Survives options ∧ options.ShowsRequest) ∧
    ∀ result : VerificationResult, Survives result :=
  ⟨fun key => ⟨key.read_text, survives_of_isTimeless rfl key, key.shows_seed⟩,
    fun offer hissued hexpires => ⟨CredentialOffer.survives hissued hexpires, offer.showsSubject⟩,
    survives_of_isTimeless rfl,
    fun options => ⟨survives_of_isTimeless rfl options, options.shows_challenge,
      options.shows_domain⟩,
    fun options => ⟨survives_of_isTimeless rfl options, options.showsRequest⟩,
    survives_of_isTimeless rfl⟩

/-- An offer for a wallet without a name, valid from the first second of the year 0 through the last
one of the year 9999. -/
def CredentialOffer.widest : CredentialOffer where
  type := "CredentialOffer"
  preview := {
    context := [credentialsContext]
    id := "card"
    type := credentialType
    issuer := "did:web:issuer.example"
    issuanceDate := ⟨-62167219200, false, by decide, nofun⟩
    expirationDate := ⟨253402300799, false, by decide, nofun⟩
    subject := some "" }
  expires := ""

theorem CredentialOffer.widest_survives :
    widest.preview.issuanceDate.HasFourDigitYear ∧
      widest.preview.expirationDate.HasFourDigitYear ∧
      widest.preview.expirationDate.text = "9999-12-31T23:59:59Z" ∧
      Survives widest ∧ widest.ShowsSubject := by
  have hissued : widest.preview.issuanceDate.HasFourDigitYear := by decide
  have hexpires : widest.preview.expirationDate.HasFourDigitYear := by decide
  obtain ⟨-, hoffers, -⟩ := Record.survive_json
  exact ⟨hissued, hexpires, by decide, hoffers widest hissued hexpires⟩

end WalletCredentials
