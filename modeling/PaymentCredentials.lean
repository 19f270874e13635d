import PaymentCredentials.Authorization
import PaymentCredentials.Base64
import PaymentCredentials.Binary64
import PaymentCredentials.Bytes
import PaymentCredentials.Canonical
import PaymentCredentials.Cipher
import PaymentCredentials.Cipher.Rijndael
import PaymentCredentials.Claims
import PaymentCredentials.Clock
import PaymentCredentials.Console.Arguments
import PaymentCredentials.Console.Command
import PaymentCredentials.Console.Inspection
import PaymentCredentials.Console.Manual
import PaymentCredentials.Console.Run
import PaymentCredentials.Container
import PaymentCredentials.Cookie
import PaymentCredentials.Decimal
import PaymentCredentials.Deflate.Bits
import PaymentCredentials.Deflate.Code
import PaymentCredentials.Deflate.Compress
import PaymentCredentials.Deflate.Inflate
import PaymentCredentials.Deflate.Lengths
import PaymentCredentials.Deflate.Matches
import PaymentCredentials.Entropy
import PaymentCredentials.Fault
import PaymentCredentials.Gzip
import PaymentCredentials.Hex
import PaymentCredentials.Instant
import PaymentCredentials.Json
import PaymentCredentials.Json.Draft
import PaymentCredentials.Json.Ordered
import PaymentCredentials.Json.Reader
import PaymentCredentials.Json.Token
import PaymentCredentials.Key
import PaymentCredentials.Keychain
import PaymentCredentials.Mac
import PaymentCredentials.Main
import PaymentCredentials.Message.Amount
import PaymentCredentials.Message.InitRequest
import PaymentCredentials.Message.InitResponse
import PaymentCredentials.Message.Locale
import PaymentCredentials.Message.Member
import PaymentCredentials.Message.Notification
import PaymentCredentials.Message.Stamp
import PaymentCredentials.Message.StatusRequest
import PaymentCredentials.Nonce
import PaymentCredentials.NonceStore
import PaymentCredentials.ProjectKey
import PaymentCredentials.RequestFault
import PaymentCredentials.Retention
import PaymentCredentials.Saturated
import PaymentCredentials.Session
import PaymentCredentials.Settings
import PaymentCredentials.Sha2
import PaymentCredentials.Signature
import PaymentCredentials.Text.Blank
import PaymentCredentials.Text.Lossy
import PaymentCredentials.Text.Pieces
import PaymentCredentials.Text.Printable
import PaymentCredentials.Text.Quoted
import PaymentCredentials.TextMap
import PaymentCredentials.Verifier
import PaymentCredentials.Web.Address
import PaymentCredentials.Web.Domain
import PaymentCredentials.Web.Domain.Composition
import PaymentCredentials.Web.Domain.Composition.Table
import PaymentCredentials.Web.Domain.Direction
import PaymentCredentials.Web.Domain.Direction.Table
import PaymentCredentials.Web.Domain.Joining
import PaymentCredentials.Web.Domain.Joining.Table
import PaymentCredentials.Web.Domain.Spelling
import PaymentCredentials.Web.Domain.Spelling.Letters
import PaymentCredentials.Web.Domain.Spelling.Refused
import PaymentCredentials.Web.Domain.Spelling.Words
import PaymentCredentials.Web.Form
import PaymentCredentials.Web.Percent
import PaymentCredentials.Web.Punycode
import PaymentCredentials.Web.Url
import PaymentCredentials.Proofs.Freshness
import PaymentCredentials.Proofs.NonceTracking
import PaymentCredentials.Proofs.VerifierRun
import PaymentCredentials.Proofs.Replay
import PaymentCredentials.Proofs.Numerals
import PaymentCredentials.Proofs.ContainerMac
import PaymentCredentials.Proofs.Base64Text
import PaymentCredentials.Proofs.WireRoundTrip
import PaymentCredentials.Proofs.SignedFields
import PaymentCredentials.Proofs.StreamGrammar
import PaymentCredentials.Proofs.GeneratedNonce
import PaymentCredentials.Proofs.MemberGrammar
import PaymentCredentials.Proofs.WrittenBits
import PaymentCredentials.Proofs.PrefixCodes
import PaymentCredentials.Proofs.LimitedLengths
import PaymentCredentials.Proofs.CodeLengths
import PaymentCredentials.Proofs.CodeHeader
import PaymentCredentials.Proofs.TextPieces
import PaymentCredentials.Proofs.WrittenBlocks
import PaymentCredentials.Proofs.GzipRoundTrip
import PaymentCredentials.Proofs.JsonText
import PaymentCredentials.Proofs.CipherRoundTrip
import PaymentCredentials.Proofs.ClaimsRoundTrip
import PaymentCredentials.Proofs.SealedClaims
import PaymentCredentials.Proofs.SessionRoundTrip
import PaymentCredentials.Proofs.CompressedSize
import PaymentCredentials.Proofs.TokenAcceptance
import PaymentCredentials.Proofs.RequestDecision
import PaymentCredentials.Proofs.RetainedKeys
import PaymentCredentials.Proofs.KeychainHistory
import PaymentCredentials.Proofs.RotationOverlap
import PaymentCredentials.Proofs.ContainerRun
import PaymentCredentials.Proofs.ProjectIsolation
import PaymentCredentials.Proofs.SealingLimits
import PaymentCredentials.Proofs.FormText
import PaymentCredentials.Proofs.RecordText
import PaymentCredentials.Proofs.RequestText
import PaymentCredentials.Proofs.SignedTransport
import PaymentCredentials.Proofs.NumeralSpelling
import PaymentCredentials.Proofs.WireGrammar
import PaymentCredentials.Proofs.WireSpellings
import PaymentCredentials.Proofs.StreamReading
import PaymentCredentials.Proofs.BitReaders
import PaymentCredentials.Proofs.Blanks
import PaymentCredentials.Proofs.FreshnessWindow
import PaymentCredentials.Proofs.NonceHistory
import PaymentCredentials.Proofs.NewestKey
import PaymentCredentials.Proofs.RepeatedPruning
import PaymentCredentials.Proofs.KeyMatching
import PaymentCredentials.Proofs.KeyDiscovery
import PaymentCredentials.Proofs.MapOrder
import PaymentCredentials.Proofs.IndentedText
import PaymentCredentials.Proofs.MessageText
import PaymentCredentials.Proofs.SealedPart
import PaymentCredentials.Proofs.DecimalText
import PaymentCredentials.Proofs.DecimalAmount
import PaymentCredentials.Proofs.ConfirmationEcho
import PaymentCredentials.Proofs.SettingsText
import PaymentCredentials.Proofs.SeededKeychain
import PaymentCredentials.Proofs.LoadedSettings
import PaymentCredentials.Proofs.SessionLifetime
import PaymentCredentials.Proofs.PrintedText
import PaymentCredentials.Proofs.TokenInspection
import PaymentCredentials.Proofs.BoundedDecompression
