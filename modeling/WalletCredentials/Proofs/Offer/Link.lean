import WalletCredentials.Offer.Link
import WalletCredentials.Proofs.Encoding.Form
import WalletCredentials.Proofs.Exchange.TokenLife
import WalletCredentials.Proofs.Timestamp.Addition

/-!
# The life of a link

A link carries its token at the end of a query, behind whatever the base address says there, and
its parts are read back as they were. A link lives through its end and no longer if its token has an
identifier and an end in a year of four digits. Without either it is dead from the start, and where
the base states a part of a token of its own, that part counts in place of the one that was minted.
-/

namespace WalletCredentials

namespace Url

variable {url : Url} {pairs : List (String × String)} {name : String}

/-- Pairs are put behind those that an address has. -/
theorem pairs_withPairs (url : Url) (pairs : List (String × String)) :
    (url.withPairs pairs).pairs = url.pairs ++ pairs := by
  obtain ⟨scheme, authority, path, query, fragment⟩ := url
  cases query with
  | none => exact Form.decode_encode pairs
  | some query =>
      simp only [withPairs]
      split
      · rename_i hempty
        have hquery : query = "" := String.isEmpty_iff.mp hempty
        subst hquery
        exact Form.decode_encode pairs
      · calc Form.decode (query ++ "&" ++ Form.encode pairs)
            = Form.decode query ++ Form.decode (Form.encode pairs) := Form.decode_append ..
          _ = Form.decode query ++ pairs := by rw [Form.decode_encode]

/-- The value that an address states for a name, or else a value of one's own. -/
def statedOr (url : Url) (name own : String) : String := (url.value? name).getD own

/-- What an address states counts before what is put behind it. -/
theorem statedOr_withPairs {own other : String}
    (h : pairs.find? (fun pair => pair.1 = name) = some (name, own)) :
    (url.withPairs pairs).statedOr name other = url.statedOr name own := by
  rw [statedOr, statedOr, value?, value?, pairs_withPairs, List.find?_append, h]
  cases url.pairs.find? fun pair => pair.1 = name with
  | none => rfl
  | some pair => rfl

theorem statedOr_of_value? {own : String} (h : url.value? name = none) :
    url.statedOr name own = own := by
  rw [statedOr, h, Option.getD_none]

/-- Tells that an address states no part of a token. -/
def StatesNoToken (url : Url) : Prop :=
  ∀ name ∈ ["id", "hmac", "expires"], url.value? name = none

/-- An address without a query states nothing. -/
theorem statesNoToken_of_query (h : url.query = none) : url.StatesNoToken := by
  intro name _
  rw [value?, pairs, h]
  rfl

theorem mem_of_mem_significant {text : String} {c : Char} (h : c ∈ significant text) :
    c ∈ text.toList := by
  have hfront := Text.mem_of_mem_dropEnd (List.mem_of_mem_filter h)
  exact (List.dropWhile_sublist _).mem hfront

/-- An address has a query only if its text has a question mark. -/
theorem query_eq_none_of_read {text : String} (hmark : '?' ∉ text.toList)
    (h : Url.read text = .ok url) : url.query = none := by
  have hfront : '?' ∉ (Text.cut '#' (significant text)).1 := fun hmem =>
    hmark (mem_of_mem_significant (Text.mem_of_mem_cut hmem))
  simp only [read, Text.cut_of_notMem hfront, bind_eq_ok_iff, pure_eq_ok_iff, Prod.exists] at h
  obtain ⟨scheme, rest, -, authority, path, -, rfl⟩ := h
  rfl

/-- So a base without a question mark has none, whatever else stands in it. -/
theorem query_eq_none_of_notMem {base : String} (hmark : '?' ∉ base.toList)
    (h : Url.read (Text.withoutEndSlashes base ++ "/offer") = .ok url) : url.query = none := by
  apply query_eq_none_of_read _ h
  rw [String.toList_append, List.mem_append, not_or, Text.withoutEndSlashes, String.toList_ofList]
  constructor
  · intro hmem
    exact hmark (Text.mem_of_mem_dropEnd hmem)
  · decide

theorem statesNoToken_of_notMem {base : String} (hmark : '?' ∉ base.toList)
    (h : Url.read (Text.withoutEndSlashes base ++ "/offer") = .ok url) : url.StatesNoToken :=
  statesNoToken_of_query (query_eq_none_of_notMem hmark h)

end Url

namespace OfferToken

variable {secret : Secret} {id base expires supplied : String} {first last now : Timestamp}
variable {seconds : Int} {url : Url}

/-- A signed token is accepted through its end and has expired afterwards, and no other is. -/
theorem isSignedUntil_iff (hfirst : first ≤ last) :
    IsSignedUntil secret id expires supplied last ↔
      (∀ t, first ≤ t → t ≤ last → check secret id expires supplied t = .ok ()) ∧
        ∀ t, last < t → ∃ text, check secret id expires supplied t = .error (.expired text) := by
  constructor
  · intro h
    constructor
    · intro t _ ht
      rw [h.check_eq, if_neg (not_lt.mpr ht)]
    · intro t ht
      rw [h.check_eq, if_pos ht]
      exact ⟨expires, rfl⟩
  · rintro ⟨haccepted, hexpired⟩
    obtain ⟨hid, -, -, last', hread, hlast, hsigned⟩ :=
      check_eq_ok_iff.mp (haccepted last hfirst le_rfl)
    have h : IsSignedUntil secret id expires supplied last' := ⟨hid, hread, hsigned⟩
    -- A token that ended later would still be accepted when it has to have expired.
    rcases hlast.eq_or_lt with rfl | hlt
    · exact h
    · obtain ⟨text, hlater⟩ := hexpired last' hlt
      rw [h.check_eq, if_neg (lt_irrefl last')] at hlater
      cases hlater

/-- A text that was written for a time ends at that time, if it is read at all. -/
theorem isSignedUntil_sign_iff :
    IsSignedUntil secret id last.text (signatureOf secret id last.text).text last ↔
      id ≠ "" ∧ last.HasFourDigitYear := by
  constructor
  · rintro ⟨hid, hread, -⟩
    exact ⟨hid, Timestamp.exists_read_text_iff.mp ⟨last, hread⟩⟩
  · rintro ⟨hid, hyear⟩
    exact ⟨hid, Timestamp.read_text hyear, rfl⟩

/-- The link of a token is the address below a base with the token behind it. -/
theorem url_eq_ok_iff {token : OfferToken} :
    token.url base = .ok url ↔
      ∃ address, Url.read (Text.withoutEndSlashes base ++ "/offer") = .ok address ∧
        url = address.withPairs token.pairs := by
  simp only [OfferToken.url, bind_eq_ok_iff, pure_eq_ok_iff]

/-- What is minted is the link of a token that is signed. -/
theorem mintUrl_eq_ok_iff :
    mintUrl secret id base seconds now = .ok url ↔
      1 ≤ seconds ∧ seconds ≤ maxLifetime ∧
        ∃ last, now.plus (.ofSeconds seconds) = .ok last ∧
          ∃ address, Url.read (Text.withoutEndSlashes base ++ "/offer") = .ok address ∧
            url = address.withPairs (sign secret id last.text).pairs := by
  simp only [mintUrl, ite_throw_eq_ok_iff, bind_eq_ok_iff, mapError_eq_ok_iff, url_eq_ok_iff,
    not_or, not_lt]
  constructor
  · rintro ⟨⟨hmin, hmax⟩, last, hlast, address, haddress, hurl⟩
    exact ⟨hmin, hmax, last, hlast, address, haddress, hurl⟩
  · rintro ⟨hmin, hmax, last, hlast, address, haddress, hurl⟩
    exact ⟨⟨hmin, hmax⟩, last, hlast, address, haddress, hurl⟩

/-- The check of an address with a token behind it is that of the parts that count. -/
theorem checkUrl_withPairs (secret : Secret) (address : Url) (token : OfferToken) (t : Timestamp) :
    checkUrl secret (address.withPairs token.pairs) t =
      check secret (address.statedOr "id" token.id) (address.statedOr "expires" token.expires)
        (address.statedOr "hmac" token.signature.text) t := by
  have hid : (address.withPairs token.pairs).statedOr "id" "" = address.statedOr "id" token.id :=
    Url.statedOr_withPairs rfl
  have hexpires : (address.withPairs token.pairs).statedOr "expires" "" =
      address.statedOr "expires" token.expires := Url.statedOr_withPairs rfl
  have hsupplied : (address.withPairs token.pairs).statedOr "hmac" "" =
      address.statedOr "hmac" token.signature.text := Url.statedOr_withPairs rfl
  rw [← hid, ← hexpires, ← hsupplied]
  rfl

/-- Tells that a link is accepted from one time through another, and has expired afterwards. -/
structure LivesThrough (secret : Secret) (url : Url) (first last : Timestamp) : Prop where
  accepted : ∀ t, first ≤ t → t ≤ last → checkUrl secret url t = .ok ()
  expired : ∀ t, last < t → ∃ text, checkUrl secret url t = .error (.expired text)

theorem livesThrough_withPairs_iff (secret : Secret) (address : Url) (token : OfferToken)
    (hfirst : first ≤ last) :
    LivesThrough secret (address.withPairs token.pairs) first last ↔
      IsSignedUntil secret (address.statedOr "id" token.id)
        (address.statedOr "expires" token.expires)
        (address.statedOr "hmac" token.signature.text) last := by
  rw [isSignedUntil_iff hfirst]
  simp only [← checkUrl_withPairs]
  constructor
  · rintro ⟨haccepted, hexpired⟩
    exact ⟨haccepted, hexpired⟩
  · rintro ⟨haccepted, hexpired⟩
    exact ⟨haccepted, hexpired⟩

section Unstated

variable {address : Url} (hstates : address.StatesNoToken)

include hstates

/-- The parts that count are those of the token where the address states none. -/
theorem statedOr_of_statesNoToken (token : OfferToken) :
    address.statedOr "id" token.id = token.id ∧
      address.statedOr "expires" token.expires = token.expires ∧
      address.statedOr "hmac" token.signature.text = token.signature.text :=
  ⟨Url.statedOr_of_value? (hstates "id" (by decide)),
    Url.statedOr_of_value? (hstates "expires" (by decide)),
    Url.statedOr_of_value? (hstates "hmac" (by decide))⟩

theorem livesThrough_iff_of_statesNoToken (hfirst : first ≤ last) :
    LivesThrough secret (address.withPairs (sign secret id last.text).pairs) first last ↔
      id ≠ "" ∧ last.HasFourDigitYear := by
  obtain ⟨hid, hexpires, hsupplied⟩ := statedOr_of_statesNoToken hstates (sign secret id last.text)
  rw [livesThrough_withPairs_iff secret address _ hfirst, hid, hexpires, hsupplied]
  exact isSignedUntil_sign_iff

/-- What is ever accepted is complete and ends at a time that can be read. -/
theorem of_checkUrl_of_statesNoToken {t : Timestamp}
    (h : checkUrl secret (address.withPairs (sign secret id last.text).pairs) t = .ok ()) :
    id ≠ "" ∧ last.HasFourDigitYear := by
  obtain ⟨hid, hexpires, -⟩ := statedOr_of_statesNoToken hstates (sign secret id last.text)
  rw [checkUrl_withPairs, hid, hexpires] at h
  obtain ⟨hne, -, -, last', hread, -⟩ := check_eq_ok_iff.mp h
  exact ⟨hne, Timestamp.exists_read_text_iff.mp ⟨last', hread⟩⟩

end Unstated

/-- A minted link lives through the end of its token exactly if the parts that count are those of a
token that is signed until then. Where the base states none of them, that is so exactly if the link
is accepted at any time at all: if the identifier is not empty, and the end lies in a year of four
digits. -/
theorem livesThrough_iff_of_mintUrl (h : mintUrl secret id base seconds now = .ok url) :
    ∃ last, now.plus (.ofSeconds seconds) = .ok last ∧
      ∃ address, Url.read (Text.withoutEndSlashes base ++ "/offer") = .ok address ∧
        (LivesThrough secret url now last ↔
          IsSignedUntil secret (address.statedOr "id" id) (address.statedOr "expires" last.text)
            (address.statedOr "hmac" (signatureOf secret id last.text).text) last) ∧
        (address.StatesNoToken →
          (LivesThrough secret url now last ↔ id ≠ "" ∧ last.HasFourDigitYear) ∧
          ((∃ t, checkUrl secret url t = .ok ()) ↔ id ≠ "" ∧ last.HasFourDigitYear)) := by
  obtain ⟨hmin, -, last, hlast, address, haddress, rfl⟩ := mintUrl_eq_ok_iff.mp h
  have hnow : now ≤ last := (Timestamp.lt_of_plus hmin hlast).le
  refine ⟨last, hlast, address, haddress, livesThrough_withPairs_iff secret address _ hnow, ?_⟩
  intro hstates
  have hlives : LivesThrough secret (address.withPairs (sign secret id last.text).pairs) now last ↔
      id ≠ "" ∧ last.HasFourDigitYear := livesThrough_iff_of_statesNoToken hstates hnow
  refine ⟨hlives, ?_, ?_⟩
  · rintro ⟨t, ht⟩
    exact of_checkUrl_of_statesNoToken hstates ht
  · intro hlive
    exact ⟨now, (hlives.mpr hlive).accepted now le_rfl hnow⟩

/-- A link with an identifier lives for a minute, and one with an empty identifier not at all. -/
theorem livesThrough_of_mintUrl_minute :
    let secret : Secret := ⟨[1], by decide⟩
    let last : Timestamp := ⟨60, false, by decide, nofun⟩
    let mint (id : String) := mintUrl secret id "http://[::1]:8080/" 60 .epoch
    (∃ url, mint "did:example:card" = .ok url ∧ LivesThrough secret url .epoch last) ∧
      ∃ url, mint "" = .ok url ∧ ¬∃ t, checkUrl secret url t = .ok () := by
  intro secret last mint
  have hlast : Timestamp.epoch.plus (.ofSeconds 60) = .ok last := Timestamp.plus_eq_ok_iff.mpr rfl
  have haddress : Url.read (Text.withoutEndSlashes "http://[::1]:8080/" ++ "/offer") =
      .ok ⟨"http", some ⟨"", some (.ipv6 [0, 0, 0, 0, 0, 0, 0, 1]), some 8080⟩, "/offer", none,
        none⟩ := rfl
  have hlives (id : String) : ∃ url, mint id = .ok url ∧
      (LivesThrough secret url .epoch last ↔ id ≠ "" ∧ last.HasFourDigitYear) ∧
      ((∃ t, checkUrl secret url t = .ok ()) ↔ id ≠ "" ∧ last.HasFourDigitYear) := by
    obtain ⟨url, hmint⟩ : ∃ url, mint id = .ok url :=
      ⟨_, mintUrl_eq_ok_iff.mpr ⟨by decide, by decide, last, hlast, _, haddress, rfl⟩⟩
    obtain ⟨last', hlast', address', haddress', -, hplain⟩ := livesThrough_iff_of_mintUrl hmint
    cases hlast.symm.trans hlast'
    cases haddress.symm.trans haddress'
    exact ⟨_, hmint, hplain (Url.statesNoToken_of_notMem (by decide) haddress)⟩
  obtain ⟨url, hurl, hlive, -⟩ := hlives "did:example:card"
  obtain ⟨url', hurl', -, haccepted⟩ := hlives ""
  refine ⟨⟨url, hurl, hlive.mpr ⟨by decide, by decide⟩⟩, url', hurl', fun h => ?_⟩
  exact (haccepted.mp h).1 rfl

end OfferToken

end WalletCredentials
