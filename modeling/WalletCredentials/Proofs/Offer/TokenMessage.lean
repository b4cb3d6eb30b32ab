import WalletCredentials.Proofs.Encoding.Utf8
import WalletCredentials.Proofs.Offer.Service
import WalletCredentials.Proofs.Timestamp.Alphabet

/-!
# A token's signature names one offer

The message that is signed for a token joins the identifier and the end with marks that may stand
in an identifier as well. It is split in one way all the same: the last of the marks counts, as
no mark stands in the text of a time. So a signature is accepted for the identifier and the end
that it was made for, and for no others.
-/

namespace WalletCredentials

/-! ## Splitting at the last mark -/

theorem eq_nil_of_cons_eq_append_cons {α : Type} {mark : α} {after between after' : List α}
    (h : mark ∉ after) (heq : mark :: after = between ++ mark :: after') : between = [] := by
  cases between with
  | nil => rfl
  | cons c between =>
      rw [List.cons_append, List.cons.injEq] at heq
      exact absurd (heq.2 ▸ List.mem_append_right _ List.mem_cons_self) h

/-- Where a mark stands last, it splits a list in one way. -/
theorem eq_of_append_cons_eq_of_notMem {α : Type} {mark : α}
    {before after before' after' : List α} (h : mark ∉ after) (h' : mark ∉ after')
    (heq : before ++ mark :: after = before' ++ mark :: after') :
    before = before' ∧ after = after' := by
  obtain ⟨between, hbefore, hafter⟩ | ⟨between, hbefore, hafter⟩ := List.append_eq_append_iff.mp heq
  · obtain rfl := eq_nil_of_cons_eq_append_cons h hafter
    rw [List.append_nil] at hbefore
    exact ⟨hbefore.symm, (List.cons.inj hafter).2⟩
  · obtain rfl := eq_nil_of_cons_eq_append_cons h' hafter
    rw [List.append_nil] at hbefore
    exact ⟨hbefore, (List.cons.inj hafter).2.symm⟩

namespace OfferToken

theorem toList_message (id expires : String) :
    (message id expires).toList =
      "?id=".toList ++ (id.toList ++ '&' :: ("expires=".toList ++ expires.toList)) := by
  have hfields : message id expires =
      "?" ++ (("id" ++ "=" ++ id) ++ "&" ++ ("expires" ++ "=" ++ expires)) := rfl
  simp [hfields, String.toList_append]

theorem mark_notMem_of_read {expires : String} {last : Timestamp}
    (h : Timestamp.read expires = .ok last) : '&' ∉ "expires=".toList ++ expires.toList := by
  intro hmem
  rcases List.mem_append.mp hmem with hname | htime
  · exact absurd hname (by decide)
  · exact absurd (Timestamp.isTimeChar_of_read h _ htime) (by decide)

/-- The message of an identifier and a time is split into them in one way, whatever marks stand
in the identifier. -/
theorem eq_of_message_eq {id id' expires expires' : String} {last last' : Timestamp}
    (hread : Timestamp.read expires = .ok last) (hread' : Timestamp.read expires' = .ok last')
    (h : message id expires = message id' expires') : id = id' ∧ expires = expires' := by
  have hchars := congrArg String.toList h
  rw [toList_message, toList_message, List.append_cancel_left_eq] at hchars
  obtain ⟨hid, hexpires⟩ := eq_of_append_cons_eq_of_notMem (mark_notMem_of_read hread)
    (mark_notMem_of_read hread') hchars
  exact ⟨String.toList_inj.mp hid, String.toList_inj.mp (List.append_cancel_left hexpires)⟩

/-- Ends that are no times are split off in several ways. -/
example : message "a&expires=b" "c" = message "a" "b&expires=c" := by decide

end OfferToken

/-! ## What a signature is accepted for -/

/-- Tells that two messages do not share a digest under a secret, unless their bytes are the
same. -/
def Secret.Separates (secret : Secret) (a b : String) : Prop :=
  Hmac.sha256 secret.bytes (Utf8.encode a) = Hmac.sha256 secret.bytes (Utf8.encode b) →
    Utf8.encode a = Utf8.encode b

theorem TokenSignature.text_injective : Function.Injective TokenSignature.text := by
  rintro ⟨a, ha⟩ ⟨b, hb⟩ h
  have hdecode : Hex.decode? (Hex.encode a) = Hex.decode? (Hex.encode b) := congrArg Hex.decode? h
  rw [Hex.decode?_encode, Hex.decode?_encode, Option.some.injEq] at hdecode
  subst hdecode
  rfl

/-- The text of a signature tells the message that was signed. -/
theorem Secret.Separates.eq_of_text_eq {secret : Secret} {a b : String}
    (hseparates : secret.Separates a b)
    (h : (TokenSignature.ofMessage secret a).text = (TokenSignature.ofMessage secret b).text) :
    a = b := by
  have hdigest := congrArg TokenSignature.digest (TokenSignature.text_injective h)
  exact Utf8.encode_injective (hseparates hdigest)

namespace OfferToken

/-- The signature of an identifier and an end is accepted for these two texts only. -/
theorem eq_of_check_signatureOf {secret : Secret} {id expires id' expires' : String}
    {last now : Timestamp} (hread : Timestamp.read expires = .ok last)
    (hseparates : secret.Separates (message id expires) (message id' expires'))
    (hcheck : check secret id' expires' (signatureOf secret id expires).text now = .ok ()) :
    id' = id ∧ expires' = expires := by
  obtain ⟨-, -, -, last', hread', -, htext⟩ := check_eq_ok_iff.mp hcheck
  obtain ⟨hid, hexpires⟩ := eq_of_message_eq hread hread' (hseparates.eq_of_text_eq htext)
  exact ⟨hid.symm, hexpires.symm⟩

/-- An identifier with the marks of a message in it is told from the rest of the message. -/
theorem eq_of_check_marked_identifier :
    let secret : Secret := ⟨[1], by decide⟩
    let id := "a&expires=1970-01-01T00:00:00Z"
    let expires := "1970-01-01 00:00:00+00:00"
    let last : Timestamp := ⟨0, false, by decide, nofun⟩
    Timestamp.read expires = .ok last ∧
      secret.Separates (message id expires) (message id expires) ∧
      check secret id expires (signatureOf secret id expires).text last = .ok () ∧
      id = id ∧ expires = expires := by
  intro secret id expires last
  have hread : Timestamp.read expires = .ok last := by decide
  have hseparates : secret.Separates (message id expires) (message id expires) := fun _ => rfl
  have hcheck : check secret id expires (signatureOf secret id expires).text last = .ok () :=
    check_eq_ok_iff.mpr ⟨by decide, TokenSignature.text_ne _, by decide, last, hread, le_rfl, rfl⟩
  exact ⟨hread, hseparates, hcheck, eq_of_check_signatureOf hread hseparates hcheck⟩

end OfferToken

end WalletCredentials
