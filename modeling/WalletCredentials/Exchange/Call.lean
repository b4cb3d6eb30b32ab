import WalletCredentials.Exchange.Error
import WalletCredentials.Toolkit.Basic

/-!
# Calls of the toolkit

How the end of a call reads to the service that made it. A call that breaks down is a
failure of the service itself, and a call that does not end in time is given up.

## Implementation notes

Time does not pass during a call: how it ends is all that a service learns of it.
-/

namespace WalletCredentials.Outcome

variable {α : Type}

/-- What a call came to, if it came to its end. -/
def result (operation : String) : Outcome α → Except ExchangeError (Except ToolkitError α)
  | .done result => .ok result
  | .broken => .error (.internal ("toolkit task '" ++ operation ++ "' failed"))
  | .unending => .error (.toolkitTimeout operation)

/-- The value of a call whose failure is the toolkit's. -/
def value (operation : String) (outcome : Outcome α) : Except ExchangeError α := do
  (← outcome.result operation).mapError fun e => .toolkit operation e.message

end WalletCredentials.Outcome
