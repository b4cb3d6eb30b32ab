import WalletCredentials.Crypto.Sha2

/-!
# HMAC-SHA256

The keyed digest of a message. A key longer than a block is replaced by its digest,
a shorter one is filled up with zeros.
-/

namespace WalletCredentials.Hmac

/-- The bytes of a block. -/
def blockBytes : Nat := 64

/-- The bytes of a keyed digest. -/
def digestBytes : Nat := 32

/-- The key as a whole block. -/
def blockKey (key : List UInt8) : List UInt8 :=
  let short := if blockBytes < key.length then Sha2.digest Sha2.sha256 key else key
  short ++ List.replicate (blockBytes - short.length) 0

/-- The keyed digest of a message. -/
def sha256 (key message : List UInt8) : List UInt8 :=
  let block := blockKey key
  let inner := Sha2.digest Sha2.sha256 (block.map (· ^^^ 0x36) ++ message)
  Sha2.digest Sha2.sha256 (block.map (· ^^^ 0x5c) ++ inner)

theorem length_sha256 (key message : List UInt8) : (sha256 key message).length = digestBytes :=
  Sha2.length_digest ..

end WalletCredentials.Hmac
