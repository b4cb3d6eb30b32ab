import WalletCredentials.Text.Digits

/-!
# Texts that are not what they should be

The ways in which an identifier or a time fails to be one, and their wording.
-/

namespace WalletCredentials

/-- What is wrong with the text of a time. -/
inductive TimeFault
  | tooShort
  | invalid
  | outOfRange
  | tooLong
  deriving DecidableEq, Repr

/-- The wording of a fault in the text of a time. -/
def TimeFault.message : TimeFault → String
  | .tooShort => "premature end of input"
  | .invalid => "input contains invalid characters"
  | .outOfRange => "input is out of range"
  | .tooLong => "trailing input"

/-- A text that is no identifier or no time, or a time past the calendar. -/
inductive InputError
  /-- The text is no decentralized identifier. -/
  | invalidDid (text : String)
  /-- The text is no time. -/
  | invalidTimestamp (text : String) (fault : TimeFault)
  /-- A time and a span of whole seconds whose sum the calendar does not hold. -/
  | timestampOverflow (start : String) (seconds : Int)
  deriving DecidableEq, Repr

/-- The wording of an input error. Texts stand between plain quotes as they came. -/
def InputError.message : InputError → String
  | .invalidDid text =>
      "invalid DID format: \"" ++ text ++ "\" (expected did:<method>:<identifier>)"
  | .invalidTimestamp text fault =>
      "invalid timestamp: \"" ++ text ++ "\" (" ++ fault.message ++ ")"
  | .timestampOverflow start seconds =>
      "timestamp " ++ start ++ " plus " ++ Text.ofInt seconds ++ "s is out of range"

end WalletCredentials
