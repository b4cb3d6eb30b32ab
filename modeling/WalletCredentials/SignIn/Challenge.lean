import WalletCredentials.Encoding.Hex

/-!
# Challenges

A challenge is a random identifier of the fourth kind: sixteen random bytes, six bits
of which tell the kind, in hexadecimal groups.
-/

namespace WalletCredentials.Challenge

/-- A byte with its high bits given: those from `bits` on are those of `mark`. -/
def marked (mark bits : Nat) (byte : UInt8) : UInt8 :=
  UInt8.ofNat (mark + byte.toNat % Nat.pow 2 bits)

/-- The challenge of sixteen random bytes. -/
def ofBytes (bytes : List UInt8) : String :=
  let bytes := (bytes.modify 6 (marked 0x40 4)).modify 8 (marked 0x80 6)
  let group (start count : Nat) : String := Hex.encode ((bytes.drop start).take count)
  "-".intercalate [group 0 4, group 4 2, group 6 2, group 8 2, group 10 6]

end WalletCredentials.Challenge
