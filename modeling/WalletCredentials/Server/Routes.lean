import WalletCredentials.Offer.Link
import WalletCredentials.Offer.Service
import WalletCredentials.Server.Config
import WalletCredentials.Server.Message
import WalletCredentials.SignIn.Challenge
import WalletCredentials.SignIn.Service

/-!
# Routes

The server answers requests for a handful of paths. Every answer is a function of the
request, of the time and the randomness at hand, and of what the server keeps.

## Implementation notes

Requests are answered one after the other. The connection and the log are left out.
-/

namespace WalletCredentials

/-- The requests that were answered, and those among the answers that told a failure. -/
structure Metrics where
  requests : Nat
  errors : Nat
  deriving DecidableEq, Repr

/-- Counts an answer. -/
def Metrics.count (metrics : Metrics) (response : Response) : Metrics :=
  ⟨metrics.requests + 1, metrics.errors + if response.isError then 1 else 0⟩

/-- What is at hand when a request is answered. -/
structure Moment where
  now : Timestamp
  toolkit : Toolkit
  /-- A key pair made from fresh randomness. -/
  freshPair : Ed25519.KeyPair
  /-- A fresh challenge. -/
  freshChallenge : String

/-- A running server. -/
structure Server where
  settings : Settings
  publicUrl : Option String
  stores : Stores
  metrics : Metrics

namespace Server

/-- The server with given settings. A secret or a key that they leave out is made from
fresh randomness. -/
def ofConfig (config : Config) (toolkit : Toolkit) (freshSecret : Secret)
    (freshPair : Ed25519.KeyPair) : Outcome Server :=
  let server (issuerKey : Jwk) : Server := {
    settings := {
      secret := config.secret.getD freshSecret
      issuerKey := issuerKey
      offerTtl := config.offerTtl
      requestTtl := config.requestTtl
      toolkitTimeout := config.toolkitTimeout }
    publicUrl := config.publicUrl
    stores := .empty
    metrics := ⟨0, 0⟩ }
  match config.issuerKey with
  | some key => .done (.ok (server key))
  | none =>
      match toolkit.generateKey freshPair with
      | .done result => .done (result.map server)
      | .broken => .broken
      | .unending => .unending

/-- The base of the addresses that are handed out. -/
def baseUrl (server : Server) (request : Request) : Except Failure String :=
  match server.publicUrl with
  | some url => .ok url
  | none => request.host.map fun host => "http://" ++ host

/-- An answer that says where to go. -/
def urlBody (url : String) : Json := .ofMembers [("url", .string url)]

/-- A refusal as a failure of the request. -/
def refused {α : Type} (result : Except ExchangeError α) : Except Failure α :=
  result.mapError .exchange

/-- Hands out the address at which a fresh offer is redeemed. -/
def mintOffer (server : Server) (moment : Moment) (request : Request) : Except Failure Json := do
  let base ← server.baseUrl request
  let token ← refused
    (Offers.createToken moment.toolkit server.settings moment.freshPair moment.now)
  match token.url base with
  | .ok url => return urlBody url.text
  | .error fault =>
      throw (.badRequest
        ("cannot build offer URL from " ++ Text.quoted base ++ ": " ++ fault.message))

/-- Redeems an offer. -/
def redeemOffer (server : Server) (moment : Moment) (request : Request) :
    Except Failure Json × Server :=
  match request.queryFields ["id", "hmac", "expires"] with
  | .error failure => (.error failure, server)
  | .ok pairs =>
      let field := Request.field pairs
      let (result, offers) := Offers.redeem moment.toolkit server.settings (field "id")
        (field "expires") (field "hmac") moment.now server.stores.offers
      ((refused result).map Record.toJson, { server with stores.offers := offers })

/-- Binds a wallet to an offer and hands out its credential. -/
def issueCredential (server : Server) (moment : Moment) (request : Request) :
    Except Failure Json × Server :=
  match request.fields ["id", "subject_id"] with
  | .error failure => (.error failure, server)
  | .ok pairs =>
      let field := Request.field pairs
      let (result, offers) := Offers.bindAndIssue moment.toolkit server.settings (field "id")
        (field "subject_id") moment.now server.stores.offers
      (refused result, { server with stores.offers := offers })

/-- Hands out a credential without a token. -/
def issueDirect (server : Server) (moment : Moment) : Except Failure Json × Server :=
  let (result, offers) := Offers.issueDirect moment.toolkit server.settings moment.freshPair
    moment.now server.stores.offers
  (refused result, { server with stores.offers := offers })

/-- Tells a wallet where to fetch a sign-in request. -/
def present (server : Server) (request : Request) : Except Failure Json :=
  (server.baseUrl request).map fun base => urlBody (Text.withoutEndSlashes base ++ "/vp-request")

/-- Hands out a sign-in request. -/
def createRequest (server : Server) (moment : Moment) (request : Request) :
    Except Failure Json × Server :=
  match request.host with
  | .error failure => (.error failure, server)
  | .ok domain =>
      let (result, requests) := SignIn.createRequest server.settings moment.freshChallenge domain
        moment.now server.stores.requests
      ((refused result).map Record.toJson, { server with stores.requests := requests })

/-- Checks the presentation of a wallet. -/
def verifyPresentation (server : Server) (moment : Moment) (request : Request) :
    Except Failure Json := do
  let pairs ← request.fields ["challenge", "presentation"]
  let domain ← request.host
  refused (SignIn.verifyPresentation moment.toolkit (Request.field pairs "challenge")
    (Request.field pairs "presentation") domain moment.now server.stores.requests)
  return .object []

/-- The counts of a server as they are handed out. -/
def metricsBody (metrics : Metrics) : Json :=
  .ofMembers [("requests", .number (.whole metrics.requests)),
    ("errors", .number (.whole metrics.errors))]

/-- The paths that the server knows. -/
inductive Route
  | mint
  | offer
  | direct
  | present
  | signIn
  | metrics
  | liveness
  | readiness
  deriving DecidableEq, Repr

/-- The route of a path. -/
def Route.ofPath? : String → Option Route
  | "/get-qr" => some .mint
  | "/offer" => some .offer
  | "/get-json" => some .direct
  | "/present" => some .present
  | "/vp-request" => some .signIn
  | "/metrics" => some .metrics
  | "/health/liveness" => some .liveness
  | "/health/readiness" => some .readiness
  | _ => none

/-- Tells whether a route takes forms. -/
def Route.takesForms (route : Route) : Bool := route = .offer || route = .signIn

/-- The methods that a route knows. -/
def Route.methods (route : Route) : String :=
  if route.takesForms then "GET,HEAD,POST" else "GET,HEAD"

/-- Tells whether the answers for a path are counted. -/
def isCounted (route : Option Route) : Bool := route ≠ some .liveness && route ≠ some .readiness

/-- The answer to a request that has been dealt with. -/
def respond (result : Except Failure Json) : Response :=
  match result with
  | .ok value => .json 200 value
  | .error failure => .failure failure

/-- Answers a request that asks for something. -/
def get (server : Server) (moment : Moment) (request : Request) : Route → Response × Server
  | .mint => (respond (server.mintOffer moment request), server)
  | .offer => (server.redeemOffer moment request).map respond id
  | .direct => (server.issueDirect moment).map respond id
  | .present => (respond (server.present request), server)
  | .signIn => (server.createRequest moment request).map respond id
  | .metrics => (.json 200 (metricsBody server.metrics), server)
  | .liveness => (.text "ok", server)
  | .readiness => (.text "ready", server)

/-- Answers a request that hands something in. -/
def post (server : Server) (moment : Moment) (request : Request) (route : Route) :
    Response × Server :=
  match route with
  | .offer => (server.issueCredential moment request).map respond id
  | .signIn => (respond (server.verifyPresentation moment request), server)
  | _ => (.notAllowed route.methods, server)

/-- Answers a request for a route. A request for the head of an answer is dealt with in
full, and only the body of the answer is left out. -/
def dispatch (server : Server) (moment : Moment) (request : Request) (route : Route) :
    Response × Server :=
  match request.method with
  | "GET" => server.get moment request route
  | "HEAD" => (server.get moment request route).map Response.withoutBody id
  | "POST" => server.post moment request route
  | _ => (.notAllowed route.methods, server)

/-- Answers a request, and counts the answer once it is complete. -/
def handle (server : Server) (moment : Moment) (request : Request) : Response × Server :=
  let route := Route.ofPath? request.path
  let (response, server) := match route with
    | some route => server.dispatch moment request route
    | none => (.notFound, server)
  if isCounted route then (response, { server with metrics := server.metrics.count response })
  else (response, server)

end Server

end WalletCredentials
