import WalletCredentials.Bytes
import WalletCredentials.Calendar
import WalletCredentials.CommandLine.Commands
import WalletCredentials.CommandLine.Usage
import WalletCredentials.Crypto.CryptoError
import WalletCredentials.Crypto.Ed25519
import WalletCredentials.Crypto.Edwards
import WalletCredentials.Crypto.Hmac
import WalletCredentials.Crypto.Sha2
import WalletCredentials.Dictionary
import WalletCredentials.Did
import WalletCredentials.DidKey
import WalletCredentials.Encoding.Base58
import WalletCredentials.Encoding.Base64Url
import WalletCredentials.Encoding.Form
import WalletCredentials.Encoding.Hex
import WalletCredentials.Encoding.Percent
import WalletCredentials.Encoding.Utf8
import WalletCredentials.Exchange.Call
import WalletCredentials.Exchange.Error
import WalletCredentials.Exchange.Settings
import WalletCredentials.Exchange.Stores
import WalletCredentials.Exchange.Sweeper
import WalletCredentials.InputError
import WalletCredentials.Json.Basic
import WalletCredentials.Json.Canonical
import WalletCredentials.Json.Printer
import WalletCredentials.Json.Reader
import WalletCredentials.Json.Skip
import WalletCredentials.Jwk
import WalletCredentials.Main
import WalletCredentials.Number.Binary64
import WalletCredentials.Number.Notation
import WalletCredentials.Number.Shortest
import WalletCredentials.Offer.Credential
import WalletCredentials.Offer.Link
import WalletCredentials.Offer.Service
import WalletCredentials.Offer.Token
import WalletCredentials.Proof.Options
import WalletCredentials.Proof.Signing
import WalletCredentials.Proof.Verification
import WalletCredentials.Proofs.Calendar
import WalletCredentials.Proofs.Crypto.Decompression
import WalletCredentials.Proofs.Crypto.EdwardsCurve
import WalletCredentials.Proofs.Crypto.EdwardsPoint
import WalletCredentials.Proofs.Crypto.GroupOrder
import WalletCredentials.Proofs.Crypto.Modulus
import WalletCredentials.Proofs.Crypto.Signature
import WalletCredentials.Proofs.Crypto.SignatureBinding
import WalletCredentials.Proofs.Dictionary
import WalletCredentials.Proofs.Did
import WalletCredentials.Proofs.DidDocument
import WalletCredentials.Proofs.DidKey
import WalletCredentials.Proofs.Encoding.Base58
import WalletCredentials.Proofs.Encoding.Base64Url
import WalletCredentials.Proofs.Encoding.Utf8
import WalletCredentials.Proofs.Exchange.Authorisation
import WalletCredentials.Proofs.Exchange.HonestFlow
import WalletCredentials.Proofs.Exchange.Independence
import WalletCredentials.Proofs.Exchange.Refusal
import WalletCredentials.Proofs.Exchange.Run
import WalletCredentials.Proofs.Exchange.ServerFault
import WalletCredentials.Proofs.Exchange.Sweeping
import WalletCredentials.Proofs.Exchange.TokenLife
import WalletCredentials.Proofs.Json.Canonical
import WalletCredentials.Proofs.Json.Scalars
import WalletCredentials.Proofs.Json.Spelling
import WalletCredentials.Proofs.Json.Values
import WalletCredentials.Proofs.Jwk
import WalletCredentials.Proofs.Offer.Service
import WalletCredentials.Proofs.Offer.TokenCheck
import WalletCredentials.Proofs.Offer.TokenMessage
import WalletCredentials.Proofs.Proof.Agreement
import WalletCredentials.Proofs.Proof.Signing
import WalletCredentials.Proofs.Proof.SigningInput
import WalletCredentials.Proofs.Proof.Tampering
import WalletCredentials.Proofs.Proof.Verification
import WalletCredentials.Proofs.Registry
import WalletCredentials.Proofs.Result
import WalletCredentials.Proofs.Server.Config
import WalletCredentials.Proofs.Server.Routes
import WalletCredentials.Proofs.SignIn.Acceptance
import WalletCredentials.Proofs.SignIn.Domain
import WalletCredentials.Proofs.SignIn.Presentation
import WalletCredentials.Proofs.Timestamp.Addition
import WalletCredentials.Proofs.Timestamp.Alphabet
import WalletCredentials.Proofs.Timestamp.Order
import WalletCredentials.Proofs.Timestamp.Text
import WalletCredentials.Record.Fault
import WalletCredentials.Record.Reader
import WalletCredentials.Record.Shape
import WalletCredentials.Registry
import WalletCredentials.Server.Config
import WalletCredentials.Server.Failure
import WalletCredentials.Server.Message
import WalletCredentials.Server.Routes
import WalletCredentials.SignIn.Challenge
import WalletCredentials.SignIn.Request
import WalletCredentials.SignIn.Service
import WalletCredentials.Text.CodePoints
import WalletCredentials.Text.CombiningClass
import WalletCredentials.Text.Composition
import WalletCredentials.Text.Decomposition
import WalletCredentials.Text.Digits
import WalletCredentials.Text.Direction
import WalletCredentials.Text.Joining
import WalletCredentials.Text.Mark
import WalletCredentials.Text.Natural
import WalletCredentials.Text.Printable
import WalletCredentials.Text.Quoted
import WalletCredentials.Text.Split
import WalletCredentials.Timestamp.Basic
import WalletCredentials.Timestamp.Reader
import WalletCredentials.Toolkit.Basic
import WalletCredentials.Toolkit.Error
import WalletCredentials.Url.Basic
import WalletCredentials.Url.Domain
import WalletCredentials.Url.Fault
import WalletCredentials.Url.Folding
import WalletCredentials.Url.Host
import WalletCredentials.Url.Label
import WalletCredentials.Url.Path
import WalletCredentials.Url.Punycode
import WalletCredentials.Url.Reader
import WalletCredentials.Proofs.Exchange.StoreInvariant
import WalletCredentials.Proofs.RegistryHistory
import WalletCredentials.Proofs.Encoding.Form
import WalletCredentials.Proofs.Offer.Link
import WalletCredentials.Proofs.Timestamp.Range
import WalletCredentials.Proofs.Server.Redemption
import WalletCredentials.Proofs.Proof.Address
import WalletCredentials.Proofs.Proof.Expiry
import WalletCredentials.Proofs.Server.OfferLink
import WalletCredentials.Proofs.Server.Startup
import WalletCredentials.Proofs.Exchange.CredentialLife
import WalletCredentials.Proofs.RegistrySize
import WalletCredentials.Proofs.PrivateKey
import WalletCredentials.Proofs.Timestamp.Spelling
import WalletCredentials.Proofs.Record.Survival
import WalletCredentials.Proofs.Timestamp.ExactSum
import WalletCredentials.Proofs.DidGrammar
