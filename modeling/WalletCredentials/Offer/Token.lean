import WalletCredentials.Crypto.CryptoError
import WalletCredentials.Crypto.Hmac
import WalletCredentials.Encoding.Hex
import WalletCredentials.Encoding.Utf8
import WalletCredentials.Exchange.Error
import WalletCredentials.Timestamp.Reader

/-!
# Offer tokens

An offer token is the identifier of an offer, the time until which it may be redeemed,
and a keyed digest of both. The server keeps nothing of it: whoever hands the three
texts in again gets the offer, if the digest is the server's own and the time has not
passed. The digest covers the texts as they are, not the form in which they travel.
-/

namespace WalletCredentials

/-- The key of the server's digests. -/
structure Secret where
  bytes : List UInt8
  bytes_ne : bytes ≠ []
  deriving DecidableEq

/-- The secret of bytes. -/
def Secret.ofBytes (bytes : List UInt8) : Except KeyFault Secret :=
  if h : bytes ≠ [] then .ok ⟨bytes, h⟩ else .error .emptySecret

/-- The secret of a text. -/
def Secret.ofText (text : String) : Except KeyFault Secret := Secret.ofBytes (Utf8.encode text)

/-- A secret as it is shown: hidden. -/
def Secret.shown (_ : Secret) : String := "HmacSecret([REDACTED])"

/-- Names and values as one message, the values as they are. -/
def canonicalQuery (fields : List (String × String)) : String :=
  "?" ++ "&".intercalate (fields.map fun (name, value) => name ++ "=" ++ value)

/-- The signature of an offer token. -/
structure TokenSignature where
  digest : List UInt8
  length_eq : digest.length = Hmac.digestBytes
  deriving DecidableEq

namespace TokenSignature

/-- The text of a signature. -/
def text (signature : TokenSignature) : String := Hex.encode signature.digest

instance : ToString TokenSignature := ⟨text⟩

/-- A signature as it is shown. -/
def shown (signature : TokenSignature) : String :=
  "TokenSignature(" ++ Text.quoted signature.text ++ ")"

/-- The signature of a message. -/
def ofMessage (secret : Secret) (message : String) : TokenSignature :=
  ⟨Hmac.sha256 secret.bytes (Utf8.encode message), Hmac.length_sha256 ..⟩

end TokenSignature

/-- What the holder of an offer token hands in. -/
structure OfferToken where
  /-- The identifier of the offer. -/
  id : String
  /-- The text of the last second in which the token may be redeemed. -/
  expires : String
  signature : TokenSignature
  deriving DecidableEq

namespace OfferToken

/-- The message that the signature of a token covers. -/
def message (id expires : String) : String :=
  canonicalQuery [("id", id), ("expires", expires)]

/-- The signature of an identifier and an end. -/
def signatureOf (secret : Secret) (id expires : String) : TokenSignature :=
  .ofMessage secret (message id expires)

/-- The token of an identifier and an end. -/
def sign (secret : Secret) (id expires : String) : OfferToken :=
  ⟨id, expires, signatureOf secret id expires⟩

/-- Tells whether a text is the signature of an identifier and an end, to the letter. The server
compares the two by their lengths first and then byte by byte, in a time that does not depend on
where they differ. That answers as equality of the texts does, and only the answer is told here. -/
def isSigned (secret : Secret) (id expires supplied : String) : Bool :=
  supplied = (signatureOf secret id expires).text

/-- Checks what was handed in for a token, and reports the first of the faults that it
has: a missing part, an end that is no time, an end that has passed, and a signature
that is not the server's own. -/
def check (secret : Secret) (id expires supplied : String) (now : Timestamp) :
    Except ExchangeError Unit := do
  if id.isEmpty then throw (.missingField "id")
  if supplied.isEmpty then throw (.missingField "hmac")
  if expires.isEmpty then throw (.missingField "expires")
  let last ← (Timestamp.read expires).mapError fun e => .malformedToken e.message
  if last.isPassedAt now then throw (.expired expires)
  if !isSigned secret id expires supplied then throw .invalidSignature

end OfferToken

end WalletCredentials
