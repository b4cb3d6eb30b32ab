import WalletCredentials.Proofs.Offer.Link
import WalletCredentials.Proofs.Server.Config
import WalletCredentials.Proofs.Timestamp.Range

/-!
# The check of a link and its redemption

A link is checked as a server would redeem it, parameter by parameter. The two agree on every query
but one kind: of a parameter that stands twice the check takes the first value, and the server takes
none and refuses the request.
-/

namespace WalletCredentials

open Ed25519

/-! ## Parameters that stand twice -/

/-- How often a name stands in pairs. -/
def Form.occurrences (name : String) (pairs : List (String × String)) : Nat :=
  (pairs.map Prod.fst).count name

theorem Form.occurrences_cons (name n value : String) (pairs : List (String × String)) :
    occurrences name ((n, value) :: pairs) =
      occurrences name pairs + if n = name then 1 else 0 := by
  rw [occurrences, List.map_cons, List.count_cons, occurrences]
  simp only [beq_iff_eq]

namespace Request

open Form

variable {names seen : List String} {pairs : List (String × String)}

/-- Nothing is repeated if no name that was seen stands again, and none stands twice. -/
theorem repeated?_eq_none_iff :
    repeated? names seen pairs = none ↔
      (∀ name ∈ seen, occurrences name pairs = 0) ∧
        ∀ name ∈ names, occurrences name pairs ≤ 1 := by
  induction pairs generalizing seen with
  | nil => simp [repeated?, occurrences]
  | cons pair pairs ih =>
      obtain ⟨n, value⟩ := pair
      simp only [repeated?, List.contains_iff_mem, occurrences_cons]
      by_cases hseen : n ∈ seen
      · rw [if_pos hseen]
        constructor
        · intro h
          cases h
        · rintro ⟨hfresh, -⟩
          have hzero := hfresh n hseen
          rw [if_pos rfl] at hzero
          omega
      · -- A name counts as seen from its first place on, so at most that place is left.
        rw [if_neg hseen, ih]
        grind

/-- What is repeated is a name that was seen and stands again, or one that stands twice. -/
theorem occurrences_of_repeated? {name : String} (h : repeated? names seen pairs = some name) :
    name ∈ seen ∧ 1 ≤ occurrences name pairs ∨ name ∈ names ∧ 2 ≤ occurrences name pairs := by
  induction pairs generalizing seen with
  | nil => cases h
  | cons pair pairs ih =>
      obtain ⟨n, value⟩ := pair
      simp only [repeated?, List.contains_iff_mem] at h
      simp only [occurrences_cons]
      by_cases hseen : n ∈ seen
      · rw [if_pos hseen] at h
        cases h
        rw [if_pos rfl]
        exact .inl ⟨hseen, Nat.le_add_left ..⟩
      · rw [if_neg hseen] at h
        have hrest := ih h
        grind

/-- The fields of a query are its pairs if none of the names stands twice, and otherwise one that
does is named. -/
theorem queryFields_cases (request : Request) (names : List String) :
    (∀ name ∈ names, occurrences name (Form.decode request.query) ≤ 1) ∧
        request.queryFields names = .ok (Form.decode request.query) ∨
      ∃ name ∈ names, 2 ≤ occurrences name (Form.decode request.query) ∧
        request.queryFields names = .error (.badRequest
          ("Failed to deserialize query string: " ++ (DataFault.duplicateField name).message)) := by
  rw [queryFields, readFields]
  cases hrepeated : repeated? names [] (Form.decode request.query) with
  | none => exact .inl ⟨(repeated?_eq_none_iff.mp hrepeated).2, rfl⟩
  | some name =>
      obtain ⟨hseen, -⟩ | ⟨hname, htwice⟩ := occurrences_of_repeated? hrepeated
      · cases hseen
      · exact .inr ⟨name, hname, htwice, rfl⟩

end Request

/-! ## Redemption -/

/-- Tells that a server redeems the tokens of a secret: its issuer has an identifier, and its offers
have a lifetime that can be configured. -/
structure Server.IsRedeemer (server : Server) (toolkit : Toolkit) (secret : Secret) : Prop where
  secret_eq : server.settings.secret = secret
  issuer : ∃ did, Offers.didOf toolkit server.settings.issuerKey = .ok did
  offerTtl : Config.IsLifetime server.settings.offerTtl

/-- A server that starts from a configuration that was read redeems the tokens of its own secret. -/
theorem Server.StartsFrom.isRedeemer {server : Server} {environment : Config.Environment}
    {config : Config} {pair : KeyPair} (h : server.StartsFrom config pair)
    (hread : Config.read environment = .ok config) (clock : Timestamp) :
    server.IsRedeemer (.ofClock clock) server.settings.secret where
  secret_eq := rfl
  issuer := by
    rw [h.issuerKey]
    exact ⟨_, Offers.didOf_eq_ok_iff.mpr ⟨_, Jwk.publicKey_ofKeyPair pair, rfl⟩⟩
  offerTtl := by
    rw [h.offerTtl]
    exact (Config.isLifetime_of_read hread).1

/-- Tells that a request asks for the offer behind a link. -/
structure Request.Redeems (request : Request) (url : Url) : Prop where
  method_eq : request.method = "GET"
  path_eq : request.path = "/offer"
  query_eq : request.query = url.query.getD ""

/-- Tells that an address states each part of a token once at most. -/
def Url.StatesOnce (url : Url) : Prop :=
  ∀ name ∈ ["id", "hmac", "expires"], Form.occurrences name url.pairs ≤ 1

theorem Failure.status_ne_ok (failure : Failure) : failure.status ≠ 200 := by
  cases failure with
  | exchange e => cases e <;> simp [status, statusAndCode, statusOfError]
  | badRequest reason => simp [status, statusAndCode]
  | internal reason => simp [status, statusAndCode]

namespace Offers

variable {toolkit : Toolkit} {settings : Settings} {now : Timestamp}
variable {id expires supplied : String}

/-- A token that passes the check unlocks an offer, as its end leaves room for every lifetime. -/
theorem exists_unlock_of_check
    (hcheck : OfferToken.check settings.secret id expires supplied now = .ok ())
    (hissuer : ∃ did, didOf toolkit settings.issuerKey = .ok did)
    (httl : Config.IsLifetime settings.offerTtl) :
    ∃ offer, unlock toolkit settings id expires supplied now = .ok offer := by
  obtain ⟨-, -, -, last, hread, hnow, -⟩ := OfferToken.check_eq_ok_iff.mp hcheck
  obtain ⟨seconds, hseconds, hpos, hmax⟩ := httl
  obtain ⟨expiry, hexpiry⟩ := Timestamp.exists_plus_of_read hread hnow hpos hmax
  obtain ⟨did, hdid⟩ := hissuer
  refine ⟨.between id did now expiry expires, ?_⟩
  rw [unlock, hcheck, ok_bind, prepare, hdid, ok_bind, orInternal_eq_ok_iff,
    CredentialOffer.create_eq_ok_iff, hseconds]
  exact ⟨expiry, hexpiry, rfl⟩

end Offers

namespace Server

variable {server : Server} {moment : Moment} {request : Request} {url : Url} {secret : Secret}

/-- No failure is answered as a success. -/
theorem status_respond_error_ne (failure : Failure) : (respond (.error failure)).status ≠ 200 :=
  failure.status_ne_ok

/-- A request for an offer is dealt with as a redemption, and its answer is counted. -/
theorem handle_of_redeems (hrequest : request.Redeems url) :
    server.handle moment request =
      let (result, server) := server.redeemOffer moment request
      (respond result, { server with metrics := server.metrics.count (respond result) }) := by
  obtain ⟨method, path, query, headers, body⟩ := request
  obtain ⟨rfl, rfl, -⟩ := hrequest
  rfl

theorem fst_handle_of_redeems (hrequest : request.Redeems url) :
    (server.handle moment request).1 = respond (server.redeemOffer moment request).1 := by
  rw [handle_of_redeems hrequest]

/-- What a server reads from a query it hands to the redemption. -/
theorem redeemOffer_of_queryFields {pairs : List (String × String)}
    (hfields : request.queryFields ["id", "hmac", "expires"] = .ok pairs) :
    server.redeemOffer moment request =
      let (result, offers) := Offers.redeem moment.toolkit server.settings
        (Request.field pairs "id") (Request.field pairs "expires") (Request.field pairs "hmac")
        moment.now server.stores.offers
      ((refused result).map Record.toJson, { server with stores.offers := offers }) := by
  rw [redeemOffer, hfields]

/-- The redemption of a link works on the same values as its check. -/
theorem fst_redeemOffer_of_queryFields
    (hfields : request.queryFields ["id", "hmac", "expires"] = .ok url.pairs) :
    (server.redeemOffer moment request).1 =
      (refused (Offers.unlock moment.toolkit server.settings (url.statedOr "id" "")
        (url.statedOr "expires" "") (url.statedOr "hmac" "") moment.now)).map Record.toJson := by
  rw [← Offers.fst_redeem, redeemOffer_of_queryFields hfields]
  rfl

/-- Where no part of a token stands twice, a redemption comes to an offer, or to what the check of
the link finds. -/
theorem redeemOffer_cases (hserver : server.IsRedeemer moment.toolkit secret)
    (hfields : request.queryFields ["id", "hmac", "expires"] = .ok url.pairs) :
    (OfferToken.checkUrl secret url moment.now = .ok () ∧
        ∃ offer : CredentialOffer, (server.redeemOffer moment request).1 =
          .ok (Record.toJson offer)) ∨
      ∃ e, OfferToken.checkUrl secret url moment.now = .error e ∧
        (server.redeemOffer moment request).1 = .error (.exchange e) := by
  obtain ⟨rfl, hissuer, httl⟩ := hserver
  have hvalues : OfferToken.checkUrl server.settings.secret url moment.now =
      OfferToken.check server.settings.secret (url.statedOr "id" "") (url.statedOr "expires" "")
        (url.statedOr "hmac" "") moment.now := rfl
  rw [hvalues, fst_redeemOffer_of_queryFields hfields]
  cases hcheck : OfferToken.check server.settings.secret (url.statedOr "id" "")
      (url.statedOr "expires" "") (url.statedOr "hmac" "") moment.now with
  | ok _ =>
      obtain ⟨offer, hunlock⟩ := Offers.exists_unlock_of_check hcheck hissuer httl
      refine .inl ⟨rfl, offer, ?_⟩
      rw [hunlock]
      rfl
  | error e =>
      refine .inr ⟨e, rfl, ?_⟩
      rw [Offers.unlock, hcheck]
      rfl

/-- The check of a link agrees with a server that redeems it wherever no part of a token stands
twice in its query: both accept it, or the server refuses it for what the check finds. A link with a
part that stands twice is refused by the server whatever the check finds. -/
theorem status_handle_iff_of_redeems (hserver : server.IsRedeemer moment.toolkit secret)
    (hrequest : request.Redeems url) :
    ((server.handle moment request).1.status = 200 ↔
      OfferToken.checkUrl secret url moment.now = .ok () ∧ url.StatesOnce) ∧
    (url.StatesOnce → ∀ e, OfferToken.checkUrl secret url moment.now = .error e →
      (server.handle moment request).1 = .failure (.exchange e)) ∧
    (¬url.StatesOnce → ∃ name ∈ ["id", "hmac", "expires"], 2 ≤ Form.occurrences name url.pairs ∧
      (server.handle moment request).1 = .failure (.badRequest
        ("Failed to deserialize query string: " ++ (DataFault.duplicateField name).message))) := by
  have hpairs : Form.decode request.query = url.pairs := by rw [hrequest.query_eq, Url.pairs]
  rw [fst_handle_of_redeems hrequest]
  rcases request.queryFields_cases ["id", "hmac", "expires"] with
    ⟨honce, hfields⟩ | ⟨name, hname, htwice, hfields⟩
  · rw [hpairs] at honce hfields
    have hstates : url.StatesOnce := honce
    rcases redeemOffer_cases hserver hfields with
      ⟨hcheck, offer, hresult⟩ | ⟨e, hcheck, hresult⟩
    · rw [hcheck, hresult]
      refine ⟨⟨fun _ => ⟨rfl, hstates⟩, fun _ => rfl⟩, ?_, fun hnot => absurd hstates hnot⟩
      intro _ e he
      cases he
    · rw [hcheck, hresult]
      refine ⟨⟨?_, ?_⟩, ?_, fun hnot => absurd hstates hnot⟩
      · intro hstatus
        exact absurd hstatus (status_respond_error_ne _)
      · rintro ⟨hok, -⟩
        cases hok
      · intro _ e' he
        cases he
        rfl
  · rw [hpairs] at htwice
    have hnot : ¬url.StatesOnce := by
      intro hstates
      have honce := hstates name hname
      omega
    rw [redeemOffer, hfields]
    refine ⟨⟨?_, ?_⟩, fun hstates => absurd hstates hnot, fun _ => ⟨name, hname, htwice, rfl⟩⟩
    · intro hstatus
      exact absurd hstatus (status_respond_error_ne _)
    · rintro ⟨-, hstates⟩
      exact absurd hstates hnot

/-- A link that states its identifier twice passes the check, and the server refuses it. -/
theorem refused_of_repeated_identifier :
    let secret := Settings.sample.secret
    let server : Server := ⟨.sample, none, .empty, ⟨0, 0⟩⟩
    let moment : Moment := ⟨.epoch, .ofClock .epoch, .ofByte 1, "challenge"⟩
    let address : Url :=
      ⟨"http", some ⟨"", some (.name "localhost"), none⟩, "/offer", some "id=card", none⟩
    let url := address.withPairs (OfferToken.sign secret "card" Timestamp.afterEpoch.text).pairs
    let request : Request := ⟨"GET", "/offer", url.query.getD "", [], ""⟩
    server.IsRedeemer moment.toolkit secret ∧ request.Redeems url ∧
      OfferToken.checkUrl secret url moment.now = .ok () ∧
      (server.handle moment request).1.status = 400 := by
  intro secret server moment address url request
  have hserver : server.IsRedeemer moment.toolkit secret :=
    ⟨rfl, ⟨_, Offers.didOf_eq_ok_iff.mpr ⟨_, Jwk.publicKey_ofKeyPair (.ofByte 0), rfl⟩⟩,
      900, rfl, by decide, by decide⟩
  have hrequest : request.Redeems url := ⟨rfl, rfl, rfl⟩
  have hstated : address.pairs = [("id", "card")] := Form.decode_encode [("id", "card")]
  have hcheck : OfferToken.checkUrl secret url moment.now = .ok () := by
    have hsigned : OfferToken.IsSignedUntil secret "card" Timestamp.afterEpoch.text
        (OfferToken.signatureOf secret "card" Timestamp.afterEpoch.text).text .afterEpoch :=
      OfferToken.isSignedUntil_sign_iff.mpr ⟨by decide, by decide⟩
    have hid : address.statedOr "id" "card" = "card" := by
      rw [Url.statedOr, Url.value?, hstated]
      rfl
    have hrest (name own : String) (hname : name ≠ "id") : address.statedOr name own = own := by
      apply Url.statedOr_of_value?
      rw [Url.value?, hstated]
      simp [Ne.symm hname]
    rw [OfferToken.checkUrl_withPairs, OfferToken.sign, hid, hrest "expires" _ (by decide),
      hrest "hmac" _ (by decide)]
    exact (hsigned.check_eq .epoch).trans (if_neg (by decide))
  have htwice : ¬url.StatesOnce := by
    intro hstates
    have honce := hstates "id" (by decide)
    rw [Url.pairs_withPairs, hstated] at honce
    revert honce
    decide
  obtain ⟨-, -, hrefused⟩ := status_handle_iff_of_redeems hserver hrequest
  obtain ⟨name, -, -, hanswer⟩ := hrefused htwice
  refine ⟨hserver, hrequest, hcheck, ?_⟩
  rw [hanswer]
  rfl

end Server

end WalletCredentials
