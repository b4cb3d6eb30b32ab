import WalletCredentials.Proofs.Server.Redemption

/-!
# What a link hands over

The texts of a token are written into a link and read from it again, by the check of the link and by
the server that redeems it. Whatever characters they hold, they arrive as they were, in their order
and with nothing beside them, if the base has no query of its own.
-/

namespace WalletCredentials

variable {token : OfferToken} {base : String} {url : Url}

/-- Tells that an address carries a token, for the one who checks it and for a server. -/
structure OfferToken.IsCarriedBy (token : OfferToken) (url : Url) : Prop where
  pairs_eq : Form.decode (url.query.getD "") =
    [("id", token.id), ("expires", token.expires), ("hmac", token.signature.text)]
  checkUrl_eq : ∀ secret now, checkUrl secret url now =
    check secret token.id token.expires token.signature.text now
  /-- A server redeems the texts of the token, and changes nothing but its offers and its counts. -/
  handle_eq : ∀ (server : Server) (moment : Moment) (request : Request), request.Redeems url →
    let (result, offers) := Offers.redeem moment.toolkit server.settings token.id token.expires
      token.signature.text moment.now server.stores.offers
    let response := Server.respond ((Server.refused result).map Record.toJson)
    server.handle moment request = (response, { server with
      stores.offers := offers
      metrics := server.metrics.count response })

/-- Under a base without a query a link has the parts of its token and no others. -/
theorem OfferToken.pairs_of_url (hmark : '?' ∉ base.toList) (h : token.url base = .ok url) :
    url.pairs = token.pairs := by
  obtain ⟨address, haddress, rfl⟩ := url_eq_ok_iff.mp h
  rw [Url.pairs_withPairs, Url.pairs, Url.query_eq_none_of_notMem hmark haddress]
  rfl

/-- The parts of a token have names of their own. -/
theorem OfferToken.occurrences_pairs (token : OfferToken) :
    ∀ name ∈ ["id", "hmac", "expires"], Form.occurrences name token.pairs ≤ 1 := by
  have hnames : token.pairs.map Prod.fst = ["id", "expires", "hmac"] := rfl
  simp only [Form.occurrences, hnames]
  decide

/-- So a server reads them as they are. -/
theorem OfferToken.queryFields_eq {request : Request}
    (h : Form.decode request.query = token.pairs) :
    request.queryFields ["id", "hmac", "expires"] = .ok token.pairs := by
  rw [← h]
  rcases request.queryFields_cases ["id", "hmac", "expires"] with
    ⟨-, hfields⟩ | ⟨name, hname, htwice, -⟩
  · exact hfields
  · rw [h] at htwice
    have honce := token.occurrences_pairs name hname
    omega

/-- A link carries its token under every base without a query. -/
theorem OfferToken.isCarriedBy_of_url (hmark : '?' ∉ base.toList) (h : token.url base = .ok url) :
    token.IsCarriedBy url := by
  have hpairs := pairs_of_url hmark h
  constructor
  case pairs_eq => exact hpairs
  case checkUrl_eq =>
    intro secret now
    simp only [checkUrl, Url.value?, hpairs]
    rfl
  case handle_eq =>
    intro server moment request hrequest
    have hdecode : Form.decode request.query = token.pairs := by
      rw [hrequest.query_eq]
      exact hpairs
    rw [Server.handle_of_redeems hrequest, Server.redeemOffer_of_queryFields (queryFields_eq hdecode)]
    rfl

/-- Marks, escapes, blanks, control characters and letters of any script arrive as they were. -/
theorem OfferToken.isCarriedBy_of_marks :
    let token : OfferToken := sign ⟨[1], by decide⟩ "a&id=b+c%26 d#?\n\u0000é😀" "=&+%2B;\t 明日"
    ∃ url, '?' ∉ "http://[::1]:8080/".toList ∧ token.url "http://[::1]:8080/" = .ok url ∧
      token.IsCarriedBy url := by
  intro token
  have haddress : Url.read (Text.withoutEndSlashes "http://[::1]:8080/" ++ "/offer") =
      .ok ⟨"http", some ⟨"", some (.ipv6 [0, 0, 0, 0, 0, 0, 0, 1]), some 8080⟩, "/offer", none,
        none⟩ := rfl
  obtain ⟨url, hurl⟩ : ∃ url, token.url "http://[::1]:8080/" = .ok url :=
    ⟨_, url_eq_ok_iff.mpr ⟨_, haddress, rfl⟩⟩
  exact ⟨url, by decide, hurl, isCarriedBy_of_url (by decide) hurl⟩

end WalletCredentials
