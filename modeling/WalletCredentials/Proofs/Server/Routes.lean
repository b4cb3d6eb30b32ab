import WalletCredentials.Proofs.Exchange.ServerFault
import WalletCredentials.Proofs.Server.Config

/-!
# What a server answers

A request comes down to one operation of the services at most. So a server reaches no stores that
the services do not reach, and it answers with a fault of its own only where an operation is
refused by one.
-/

namespace WalletCredentials

open Ed25519

/-- Tells that a request fails because it cannot be used or for a reason with a property. -/
def Failure.IsExplained (refuses : ExchangeError → Prop) : Failure → Prop
  | .badRequest _ => True
  | .exchange e => refuses e
  | .internal _ => False

/-! ## What is read from a request -/

section Reading

variable {refuses : ExchangeError → Prop} {request : Request}

namespace Request

theorem explained_host : FailsOnly (Failure.IsExplained refuses) request.host := by
  rw [host]
  split
  · exact .ok _
  · exact .error trivial

theorem explained_readFields (source : String) (names : List String) (text : String) :
    FailsOnly (Failure.IsExplained refuses) (readFields source names text) := by
  rw [readFields]
  split
  · exact .error trivial
  · exact .ok _

theorem explained_formFields (names : List String) :
    FailsOnly (Failure.IsExplained refuses) (request.formFields names) := by
  rw [formFields]
  refine FailsOnly.ite (.ok _) ?_
  exact FailsOnly.ite (.error trivial) (explained_readFields _ _ _)

theorem explained_fields (names : List String) :
    FailsOnly (Failure.IsExplained refuses) (request.fields names) := by
  rw [fields]
  refine (explained_readFields _ _ _).bind fun query => ?_
  exact (explained_formFields names).bind fun form => .ok _

end Request

namespace Server

theorem explained_baseUrl (server : Server) :
    FailsOnly (Failure.IsExplained refuses) (server.baseUrl request) := by
  rw [baseUrl]
  split
  · exact .ok _
  · exact Request.explained_host.map _

theorem explained_refused {α : Type} {result : Except ExchangeError α}
    (h : FailsOnly refuses result) : FailsOnly (Failure.IsExplained refuses) (refused result) :=
  FailsOnly.mapError h

end Server

end Reading

/-! ## Handlers -/

namespace Server

/-- Tells that an operation is refused for a reason. -/
def Refuses (server : Server) (moment : Moment) (e : ExchangeError) : Prop :=
  ∃ operation : Operation,
    (operation.perform moment.toolkit server.settings moment.now server.stores).1.refusal? = some e

/-- Tells that a server is left with its settings, and with its stores as they were or as an
operation leaves them. -/
structure Leaves (server : Server) (moment : Moment) (after : Server) : Prop where
  settings : after.settings = server.settings
  stores : after.stores = server.stores ∨ ∃ operation : Operation, after.stores =
    (operation.perform moment.toolkit server.settings moment.now server.stores).2

/-- What a handler comes to: a failure that is explained, and a server as it may be left. -/
structure Handles (server : Server) (moment : Moment) (step : Except Failure Json × Server) :
    Prop where
  explained : FailsOnly (Failure.IsExplained (server.Refuses moment)) step.1
  leaves : server.Leaves moment step.2

section Handlers

variable (server : Server) (moment : Moment) (request : Request)

theorem leaves_self : server.Leaves moment server := ⟨rfl, .inl rfl⟩

theorem explained_mintOffer :
    FailsOnly (Failure.IsExplained (server.Refuses moment)) (server.mintOffer moment request) := by
  rw [mintOffer]
  refine (explained_baseUrl server).bind fun base => ?_
  refine FailsOnly.bind (explained_refused ?_) fun token => ?_
  · intro e he
    exact ⟨.createToken moment.freshPair, by rw [Operation.perform, he]; rfl⟩
  · split
    · exact .ok _
    · exact .error trivial

theorem handles_redeemOffer : server.Handles moment (server.redeemOffer moment request) := by
  rw [redeemOffer]
  split
  · rename_i failure hfields
    exact ⟨.error (Request.explained_readFields _ _ _ failure hfields), leaves_self _ _⟩
  · constructor
    · refine (explained_refused fun e he => ?_).map _
      exact ⟨.redeem _ _ _, congrArg (fun result => (Answer.offer result).refusal?) he⟩
    · exact ⟨rfl, .inr ⟨.redeem _ _ _, rfl⟩⟩

theorem handles_issueCredential :
    server.Handles moment (server.issueCredential moment request) := by
  rw [issueCredential]
  split
  · rename_i failure hfields
    exact ⟨.error (Request.explained_fields _ failure hfields), leaves_self _ _⟩
  · constructor
    · refine explained_refused fun e he => ?_
      exact ⟨.bindAndIssue _ _, congrArg (fun result => (Answer.credential result).refusal?) he⟩
    · exact ⟨rfl, .inr ⟨.bindAndIssue _ _, rfl⟩⟩

theorem handles_issueDirect : server.Handles moment (server.issueDirect moment) := by
  constructor
  · refine explained_refused fun e he => ?_
    exact ⟨.issueDirect _, congrArg (fun result => (Answer.credential result).refusal?) he⟩
  · exact ⟨rfl, .inr ⟨.issueDirect _, rfl⟩⟩

theorem explained_present :
    FailsOnly (Failure.IsExplained (server.Refuses moment)) (server.present request) :=
  (explained_baseUrl server).map _

theorem handles_createRequest : server.Handles moment (server.createRequest moment request) := by
  rw [createRequest]
  split
  · rename_i failure hhost
    exact ⟨.error (Request.explained_host failure hhost), leaves_self _ _⟩
  · constructor
    · refine (explained_refused fun e he => ?_).map _
      exact ⟨.createRequest _ _, congrArg (fun result => (Answer.request result).refusal?) he⟩
    · exact ⟨rfl, .inr ⟨.createRequest _ _, rfl⟩⟩

theorem explained_verifyPresentation :
    FailsOnly (Failure.IsExplained (server.Refuses moment))
      (server.verifyPresentation moment request) := by
  rw [verifyPresentation]
  refine (Request.explained_fields _).bind fun pairs => ?_
  refine Request.explained_host.bind fun domain => ?_
  refine FailsOnly.bind (explained_refused fun e he => ?_) fun _ => .ok _
  exact ⟨.verifyPresentation _ _ _, congrArg (fun result => (Answer.verdict result).refusal?) he⟩

end Handlers

/-! ## Answers -/

/-- What an answer is: no fault of the server, unless an operation is refused by one, and a server
as it may be left. -/
structure Answers (server : Server) (moment : Moment) (step : Response × Server) : Prop where
  status : step.1.status < 500 ∨
    ∃ e, server.Refuses moment e ∧ step.1.status = (Failure.statusOfError e).1
  leaves : server.Leaves moment step.2

section Dispatch

variable {server : Server} {moment : Moment}

theorem status_respond {result : Except Failure Json}
    (h : FailsOnly (Failure.IsExplained (server.Refuses moment)) result) :
    (respond result).status < 500 ∨
      ∃ e, server.Refuses moment e ∧ (respond result).status = (Failure.statusOfError e).1 := by
  cases hresult : result with
  | ok value => exact .inl (by simp [respond, Response.json])
  | error failure =>
      have hexplained := h failure hresult
      cases failure with
      | badRequest reason =>
          left
          simp [respond, Response.failure, Response.json, Failure.status, Failure.statusAndCode]
      | exchange e => exact .inr ⟨e, hexplained, rfl⟩
      | internal reason => cases hexplained

theorem Handles.answers {step : Except Failure Json × Server} (h : server.Handles moment step) :
    server.Answers moment (step.map respond id) :=
  ⟨status_respond h.explained, h.leaves⟩

/-- An answer that leaves the server as it was. -/
theorem answers_respond {result : Except Failure Json}
    (h : FailsOnly (Failure.IsExplained (server.Refuses moment)) result) :
    server.Answers moment (respond result, server) :=
  ⟨status_respond h, leaves_self _ _⟩

theorem answers_of_status_lt {response : Response} (h : response.status < 500) :
    server.Answers moment (response, server) :=
  ⟨.inl h, leaves_self _ _⟩

variable (server moment) (request : Request) (route : Route)

theorem answers_get : server.Answers moment (server.get moment request route) := by
  cases route with
  | mint => exact answers_respond (explained_mintOffer server moment request)
  | offer => exact (handles_redeemOffer server moment request).answers
  | direct => exact (handles_issueDirect server moment).answers
  | present => exact answers_respond (explained_present server moment request)
  | signIn => exact (handles_createRequest server moment request).answers
  | metrics => exact answers_of_status_lt (by simp [Response.json])
  | liveness => exact answers_of_status_lt (by simp [Response.text])
  | readiness => exact answers_of_status_lt (by simp [Response.text])

theorem answers_notAllowed : server.Answers moment (.notAllowed route.methods, server) :=
  answers_of_status_lt (by simp [Response.notAllowed])

theorem answers_post : server.Answers moment (server.post moment request route) := by
  cases route with
  | offer => exact (handles_issueCredential server moment request).answers
  | signIn => exact answers_respond (explained_verifyPresentation server moment request)
  | _ => exact answers_notAllowed _ _ _

theorem answers_dispatch : server.Answers moment (server.dispatch moment request route) := by
  rw [dispatch]
  split
  · exact answers_get _ _ _ _
  · have hget := answers_get server moment request route
    exact ⟨hget.status, hget.leaves⟩
  · exact answers_post _ _ _ _
  · exact answers_notAllowed _ _ _

/-- Counting an answer changes neither the answer nor what the services work with. -/
theorem Answers.count {step : Response × Server} (h : server.Answers moment step) (counted : Bool) :
    server.Answers moment (if counted = true then
      (step.1, { step.2 with metrics := step.2.metrics.count step.1 }) else step) := by
  split
  · exact ⟨h.status, h.leaves.settings, h.leaves.stores⟩
  · exact h

theorem answers_handle : server.Answers moment (server.handle moment request) := by
  have hnotFound : server.Answers moment (.notFound, server) :=
    answers_of_status_lt (by simp [Response.notFound])
  rw [handle]
  cases Route.ofPath? request.path with
  | none => exact hnotFound.count _ _ _
  | some route => exact (answers_dispatch server moment request route).count _ _ _

end Dispatch

/-! ## Runs of a server -/

/-- What happens to a server: it is asked something, or its stores are swept. -/
inductive Visit
  /-- A request that is answered at a time, with a clock and with randomness of its own. -/
  | ask (now clock : Timestamp) (freshPair : KeyPair) (freshChallenge : String) (request : Request)
  | sweep (now : Timestamp)

/-- The server after a visit. -/
def visit (server : Server) : Visit → Server
  | .ask now clock freshPair freshChallenge request =>
      (server.handle ⟨now, .ofClock clock, freshPair, freshChallenge⟩ request).2
  | .sweep now => { server with stores := (server.stores.sweep now).2 }

/-- The server after visits in turn. -/
def after (server : Server) (visits : List Visit) : Server := visits.foldl visit server

/-- A visit keeps the settings, and leaves the stores as a run of the services leaves them. -/
theorem exists_events_visit (server : Server) (v : Visit) :
    (server.visit v).settings = server.settings ∧
      ∃ events, (server.visit v).stores = server.stores.after server.settings events := by
  cases v with
  | ask now clock freshPair freshChallenge request =>
      obtain ⟨-, hsettings, hstores⟩ :=
        answers_handle server ⟨now, .ofClock clock, freshPair, freshChallenge⟩ request
      refine ⟨hsettings, ?_⟩
      rcases hstores with hsame | ⟨operation, hoperation⟩
      · exact ⟨[], hsame⟩
      · refine ⟨[⟨operation, now, clock⟩], hoperation.trans ?_⟩
        rw [Stores.after_cons, Event.perform_eq]
        rfl
  | sweep now => exact ⟨rfl, [⟨.sweep, now, now⟩], rfl⟩

/-- Whatever is asked of a server, its stores are those that a run of the services leaves. -/
theorem exists_events_after (server : Server) (visits : List Visit) :
    (server.after visits).settings = server.settings ∧
      ∃ events, (server.after visits).stores = server.stores.after server.settings events := by
  induction visits generalizing server with
  | nil => exact ⟨rfl, [], rfl⟩
  | cons v visits ih =>
      obtain ⟨hsettings, events, hstores⟩ := exists_events_visit server v
      obtain ⟨hsettings', events', hstores'⟩ := ih (server.visit v)
      refine ⟨hsettings'.trans hsettings, events ++ events', ?_⟩
      rw [Stores.after_append, ← hstores, ← hsettings]
      exact hstores'

/-- A server at a time at which it is never at fault itself, whatever operations and whatever visits
it has seen before. -/
structure IsFaultless (server : Server) (pair : KeyPair) (now : Timestamp) : Prop where
  offer_end : ∃ last, now.plus server.settings.offerTtl = .ok last
  request_end : ∃ last, now.plus server.settings.requestTtl = .ok last
  /-- No operation is refused by a fault of the server. -/
  operations : ∀ events operation clock e, (Operation.perform (.ofClock clock) server.settings now
    (Stores.empty.after server.settings events) operation).1.refusal? = some e →
      e.isServerFault = false
  /-- The stores that visits lead to are among those that operations lead to. -/
  reached : ∀ visits, (server.after visits).settings = server.settings ∧
    ∃ events, (server.after visits).stores = Stores.empty.after server.settings events
  /-- No answer has a status of the server's own faults. -/
  answers : ∀ visits clock freshPair freshChallenge request, ((server.after visits).handle
    ⟨now, .ofClock clock, freshPair, freshChallenge⟩ request).1.status < 500
  /-- The issuers of the offers that are kept are identifiers of the key that signs. -/
  kept : ∀ events id entry,
    (Stores.empty.after server.settings events).offers.stored? id = some entry →
      entry.value.IsSignedBy pair
  /-- So are the issuers of the offers that are issued without having been kept. -/
  fresh : ∀ clock freshPair offer,
    Offers.prepareFresh (.ofClock clock) server.settings freshPair now = .ok offer →
      offer.IsSignedBy pair

/-- A status is one of the server's own faults only for a fault of the server. -/
theorem statusOfError_lt {e : ExchangeError} (h : e.isServerFault = false) :
    (Failure.statusOfError e).1 < 500 := by
  cases e with
  | toolkitTimeout operation => cases h
  | toolkit operation detail => cases h
  | internal reason => cases h
  | _ => simp [Failure.statusOfError]

theorem isFaultless_of_isSound {server : Server} {pair : KeyPair} {now : Timestamp}
    (hstores : server.stores = .empty) (h : server.settings.IsSound pair now) :
    server.IsFaultless pair now := by
  have hreached (visits : List Visit) : (server.after visits).settings = server.settings ∧
      ∃ events, (server.after visits).stores = Stores.empty.after server.settings events := by
    rw [← hstores]
    exact exists_events_after server visits
  constructor
  · exact h.offer_end
  · exact h.request_end
  · intro events operation clock e hrefusal
    exact Operation.isServerFault_of_refusal h hrefusal
  · exact hreached
  · intro visits clock freshPair freshChallenge request
    obtain ⟨hsettings, events, hevents⟩ := hreached visits
    rcases (answers_handle (server.after visits) ⟨now, .ofClock clock, freshPair, freshChallenge⟩
      request).status with hstatus | ⟨e, ⟨operation, hrefusal⟩, hstatus⟩
    · exact hstatus
    · rw [hsettings, hevents] at hrefusal
      rw [hstatus]
      exact statusOfError_lt (Operation.isServerFault_of_refusal h hrefusal)
  · intro events id entry hentry
    exact CredentialOffer.isSignedBy_of_issuer
      (Stores.issuer_of_entry_of_keyPair h.issuerKey hentry)
  · intro clock freshPair offer hoffer
    exact CredentialOffer.isSignedBy_of_issuer (Offers.issuer_of_prepareFresh h.issuerKey hoffer)

/-- A server whose configuration was read from an environment starts, if the key that it is given
can sign, and up to the year 10000 it is never at fault itself. -/
theorem isFaultless_of_read {environment : Config.Environment} {config : Config}
    (hread : Config.read environment = .ok config)
    (hkey : ∀ key, config.issuerKey = some key → ∃ pair, key.keyPair = .ok pair)
    (clock : Timestamp) (freshSecret : Secret) (freshPair : KeyPair) :
    ∃ server pair, ofConfig config (.ofClock clock) freshSecret freshPair = .done (.ok server) ∧
      server.settings.issuerKey.keyPair = .ok pair ∧
      ∀ now, now.date.year ≤ 10000 → server.IsFaultless pair now := by
  obtain ⟨server, pair, hserver, hstarts⟩ :=
    exists_startsFrom hkey clock freshSecret freshPair
  obtain ⟨⟨offer, hoffer, hofferPos, hofferMax⟩, ⟨request, hrequest, hrequestPos, hrequestMax⟩⟩ :=
    Config.isLifetime_of_read hread
  refine ⟨server, pair, hserver, Jwk.keyPair_eq_ok_iff.mpr hstarts.issuerKey, ?_⟩
  intro now hyear
  apply isFaultless_of_isSound hstarts.stores
  constructor
  · exact hstarts.issuerKey
  · rw [hstarts.offerTtl, hoffer]
    exact Timestamp.exists_plus_of_year_le hyear hofferPos hofferMax
  · rw [hstarts.requestTtl, hrequest]
    exact Timestamp.exists_plus_of_year_le hyear hrequestPos hrequestMax

/-- A server without any settings answers its first request without a fault of its own. -/
theorem answer_without_settings :
    let config : Config :=
      ⟨8080, none, none, none, .ofSeconds 900, .ofSeconds 900, 5000, 60, .text⟩
    Config.read (fun _ => none) = .ok config ∧ Timestamp.epoch.date.year ≤ 10000 ∧
      ∃ server, ofConfig config (.ofClock .epoch) ⟨[1], by decide⟩ (.ofByte 0) =
          .done (.ok server) ∧
        (server.handle ⟨.epoch, .ofClock .epoch, .ofByte 1, "challenge"⟩
          ⟨"GET", "/get-json", "", [], ""⟩).1.status < 500 := by
  intro config
  have hread : Config.read (fun _ => none) = .ok config := rfl
  have hyear : Timestamp.epoch.date.year ≤ 10000 := by decide
  obtain ⟨server, pair, hserver, -, hfaultless⟩ :=
    isFaultless_of_read hread nofun .epoch ⟨[1], by decide⟩ (.ofByte 0)
  have hanswer := (hfaultless .epoch hyear).answers [] .epoch (.ofByte 1) "challenge"
    ⟨"GET", "/get-json", "", [], ""⟩
  have hafter : server.after [] = server := rfl
  rw [hafter] at hanswer
  exact ⟨hread, hyear, server, hserver, hanswer⟩

end Server

end WalletCredentials
