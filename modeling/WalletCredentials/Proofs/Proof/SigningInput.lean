import WalletCredentials.Proof.Signing
import WalletCredentials.Proofs.Json.Spelling

/-!
# What is signed

The bytes that a proof signs are the spelling of one value, which holds the document without its
proof beside the proof without its value. They tell both apart: whoever changes the document, the
proof or the line between them changes what is signed.
-/

namespace WalletCredentials.Proof

variable {document document' proof proof' : List (String × Json)}

/-- The value whose canonical form a proof signs. -/
def signedValue (document proof : List (String × Json)) : Json :=
  .object [("document", .object (Dictionary.erase "proof" document)),
    ("proof", .object (Dictionary.erase "proofValue" proof))]

theorem sorted_signedValue {v w : Json} :
    Dictionary.Sorted [("document", v), ("proof", w)] :=
  List.pairwise_pair.mpr (show "document" < "proof" by decide)

theorem signingInput_eq (document proof : List (String × Json)) :
    signingInput document proof = (signedValue document proof).canonicalBytes := by
  rw [signingInput, Json.ofMembers, sorted_signedValue.ofList_eq, signedValue]

/-- Leaving out a member of an object leaves its numbers whole. -/
theorem isIntegral_erase {name : String} {members : List (String × Json)}
    (h : (Json.object members).IsIntegral) :
    (Json.object (Dictionary.erase name members)).IsIntegral := by
  cases h with
  | object hsorted h => exact .object hsorted.erase fun m hm => h m (List.mem_of_mem_filter hm)

theorem isIntegral_signedValue (hdocument : (Json.object document).IsIntegral)
    (hproof : (Json.object proof).IsIntegral) : (signedValue document proof).IsIntegral := by
  refine .object sorted_signedValue (List.forall_mem_cons.mpr ⟨?_, ?_⟩)
  · exact isIntegral_erase hdocument
  · exact List.forall_mem_singleton.mpr (isIntegral_erase hproof)

/-- What is signed tells the document without its proof and the proof without its value. -/
theorem signingInput_inj (hdocument : (Json.object document).IsIntegral)
    (hdocument' : (Json.object document').IsIntegral) (hproof : (Json.object proof).IsIntegral)
    (hproof' : (Json.object proof').IsIntegral) :
    signingInput document proof = signingInput document' proof' ↔
      Dictionary.erase "proof" document = Dictionary.erase "proof" document' ∧
        Dictionary.erase "proofValue" proof = Dictionary.erase "proofValue" proof' := by
  rw [signingInput_eq, signingInput_eq, (isIntegral_signedValue hdocument hproof).canonicalBytes_inj
    (isIntegral_signedValue hdocument' hproof')]
  simp [signedValue]

/-- The signed bytes are the UTF-8 of the one spelling of the signed value, and they are the same
for two documents and proofs only if these are equal, apart from the proof in the document and the
value in the proof. -/
theorem signingInput_determines (hdocument : (Json.object document).IsIntegral)
    (hdocument' : (Json.object document').IsIntegral) (hproof : (Json.object proof).IsIntegral)
    (hproof' : (Json.object proof').IsIntegral) :
    (signingInput document proof = signingInput document' proof' ↔
      Dictionary.erase "proof" document = Dictionary.erase "proof" document' ∧
        Dictionary.erase "proofValue" proof = Dictionary.erase "proofValue" proof') ∧
      ∀ bytes, bytes = signingInput document proof ↔
        ∃ cs, (signedValue document proof).IsSpelled cs ∧ bytes = Utf8.encodeChars cs := by
  refine ⟨signingInput_inj hdocument hdocument' hproof hproof', fun bytes => ?_⟩
  simp only [(isIntegral_signedValue hdocument hproof).isSpelled_iff, exists_eq_left]
  rw [signingInput_eq, Json.canonicalBytes]

/-- Moving a member from the document to the proof changes what is signed. -/
theorem signingInput_ne_of_moved_member :
    let number := ("a", Json.number (.whole 18446744073709551615))
    let text := ("a!", Json.string "\"")
    let value := ("proofValue", Json.string "u")
    (Json.object [number, text]).IsIntegral ∧ (Json.object [number]).IsIntegral ∧
      (Json.object [value]).IsIntegral ∧ (Json.object [text, value]).IsIntegral ∧
      signingInput [number, text] [value] ≠ signingInput [number] [text, value] ∧
      ∃ cs, (signedValue [number, text] [value]).IsSpelled cs ∧
        signingInput [number, text] [value] = Utf8.encodeChars cs := by
  intro number text value
  have hnumber : number.2.IsIntegral := .whole ⟨by decide, by decide⟩
  have htext : text.2.IsIntegral := .string _
  have hvalue : value.2.IsIntegral := .string _
  have hdocument : (Json.object [number, text]).IsIntegral :=
    .object (List.pairwise_pair.mpr (show "a" < "a!" by decide))
      (List.forall_mem_cons.mpr ⟨hnumber, List.forall_mem_singleton.mpr htext⟩)
  have hrest : (Json.object [number]).IsIntegral :=
    .object (List.pairwise_singleton ..) (List.forall_mem_singleton.mpr hnumber)
  have hproof : (Json.object [value]).IsIntegral :=
    .object (List.pairwise_singleton ..) (List.forall_mem_singleton.mpr hvalue)
  have hmoved : (Json.object [text, value]).IsIntegral :=
    .object (List.pairwise_pair.mpr (show "a!" < "proofValue" by decide))
      (List.forall_mem_cons.mpr ⟨htext, List.forall_mem_singleton.mpr hvalue⟩)
  obtain ⟨hiff, hspelled⟩ := signingInput_determines hdocument hrest hproof hmoved
  refine ⟨hdocument, hrest, hproof, hmoved, fun h => ?_, (hspelled _).mp rfl⟩
  have hlength : 2 = 1 := congrArg List.length (hiff.mp h).1
  cases hlength

end WalletCredentials.Proof
