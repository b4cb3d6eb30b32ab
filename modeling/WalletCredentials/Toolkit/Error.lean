import WalletCredentials.InputError

/-!
# Failures of the toolkit

The kinds of failure that operations on keys, identifiers and signed documents report.
-/

namespace WalletCredentials

/-- A failure of a toolkit operation, with what it concerns. -/
inductive ToolkitError
  | invalidKey (reason : String)
  | unsupportedMethod (method : String)
  | invalidDid (reason : String)
  | signing (reason : String)
  | malformedDocument (reason : String)
  | notFound (url : String)
  deriving DecidableEq, Repr

/-- The wording of a failure. -/
def ToolkitError.message : ToolkitError → String
  | .invalidKey reason => "invalid key: " ++ reason
  | .unsupportedMethod method => "unsupported DID method: " ++ method
  | .invalidDid reason => "invalid DID: " ++ reason
  | .signing reason => "signing failed: " ++ reason
  | .malformedDocument reason => "malformed document: " ++ reason
  | .notFound url => "not found: " ++ url

end WalletCredentials
