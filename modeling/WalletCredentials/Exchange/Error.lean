import WalletCredentials.Text.Quoted

/-!
# Refusals of the services

Why a service does not do what it is asked to do.
-/

namespace WalletCredentials

/-- Why a service refuses an operation, or fails in it. -/
inductive ExchangeError
  | missingField (name : String)
  /-- The time in an offer token is none. -/
  | malformedToken (reason : String)
  /-- The offer token ended at the time that was handed in with it. -/
  | expired (expires : String)
  | invalidSignature
  /-- No offer that may be used is kept under the identifier. -/
  | unknownOffer (id : String)
  | issuanceFailed (reason : String)
  | presentationVerificationFailed (errors : List String)
  | credentialVerificationFailed (errors : List String)
  /-- The presentation holds no credential. -/
  | missingCredential
  | malformedPresentation (reason : String)
  /-- The credential of the presentation was issued to someone else than its holder. -/
  | subjectHolderMismatch (holder subject : Option String)
  | toolkitTimeout (operation : String)
  /-- The toolkit cannot make a key or an identifier. -/
  | toolkit (operation detail : String)
  | internal (reason : String)
  deriving DecidableEq, Repr

/-- Texts between square brackets. -/
def bracketed (texts : List String) : String := "[" ++ ", ".intercalate texts ++ "]"

/-- The wording of a refusal. -/
def ExchangeError.message : ExchangeError → String
  | .missingField name => "the field '" ++ name ++ "' is required"
  | .malformedToken reason => "malformed offer token: " ++ reason
  | .expired expires => "the offer expired at " ++ expires
  | .invalidSignature => "invalid HMAC"
  | .unknownOffer id => "no pending offer for id \"" ++ id ++ "\""
  | .issuanceFailed reason => "credential issuance failed: " ++ reason
  | .presentationVerificationFailed errors => "can't verify presentation: " ++ bracketed errors
  | .credentialVerificationFailed errors => "can't verify credential: " ++ bracketed errors
  | .missingCredential => "unable to find credential"
  | .malformedPresentation reason => "malformed presentation: " ++ reason
  | .subjectHolderMismatch holder subject =>
      "credential subject " ++ Text.quotedOption subject ++ " does not match holder " ++
        Text.quotedOption holder
  | .toolkitTimeout operation => "toolkit operation '" ++ operation ++ "' timed out"
  | .toolkit operation detail => "toolkit operation '" ++ operation ++ "' failed: " ++ detail
  | .internal reason => "internal error: " ++ reason

end WalletCredentials
