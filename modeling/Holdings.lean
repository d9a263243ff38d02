import Holdings.Amount.Context
import Holdings.Amount.Raw
import Holdings.Amount.Units
import Holdings.Backend.Basic
import Holdings.Backend.EvmNode
import Holdings.Backend.Indexer
import Holdings.Backend.Slots
import Holdings.Backend.SolanaNode
import Holdings.Balances.Basic
import Holdings.Balances.Payload
import Holdings.Balances.Rendering
import Holdings.Chain.Basic
import Holdings.Chain.Key
import Holdings.Chain.Table
import Holdings.Codec.Base58
import Holdings.Codec.Base64
import Holdings.Codec.Bytes
import Holdings.Evm.Address
import Holdings.Evm.Alchemy
import Holdings.Evm.Block
import Holdings.Evm.Envelope
import Holdings.Evm.Fee
import Holdings.Evm.Form
import Holdings.Evm.Parameter
import Holdings.Evm.Reversal
import Holdings.Fault
import Holdings.Hash.Keccak
import Holdings.Hash.Sha256
import Holdings.Http.Answer
import Holdings.Http.Body
import Holdings.Http.Path
import Holdings.Http.Route
import Holdings.Json.Access
import Holdings.Json.Basic
import Holdings.Json.Compact
import Holdings.Json.Parser
import Holdings.Json.Quoted
import Holdings.Network.Basic
import Holdings.Network.Connections
import Holdings.Network.Transport
import Holdings.Number.Double
import Holdings.Number.Numeral
import Holdings.Number.Shortest
import Holdings.Provider
import Holdings.Registry.Basic
import Holdings.Registry.Queries
import Holdings.Schema.Models
import Holdings.Schema.Shape
import Holdings.Solana.Address
import Holdings.Solana.Curve
import Holdings.Solana.Metadata
import Holdings.Source
import Holdings.Text.Blank
import Holdings.Text.Casing
import Holdings.Text.Charset
import Holdings.Text.CodeRange
import Holdings.Text.Digit
import Holdings.Text.Integer
import Holdings.Text.LooseInteger
import Holdings.Text.Lowercase
import Holdings.Text.Printable
import Holdings.Text.Surrogate
import Holdings.Text.Utf8
import Holdings.Proofs.Amount.Context
import Holdings.Proofs.Amount.Reduction
import Holdings.Proofs.Amount.PlainDecimal
import Holdings.Proofs.Amount.RoundTrip
import Holdings.Proofs.Backend.Calls
import Holdings.Proofs.Backend.Parts
import Holdings.Proofs.Balances.WellFormed
import Holdings.Proofs.Backend.Balances
import Holdings.Proofs.Provider.Balances
import Holdings.Proofs.Provider.Arises
import Holdings.Proofs.Balances.Report
import Holdings.Proofs.Balances.Strategies
import Holdings.Proofs.Balances.Native
import Holdings.Proofs.Provider.Isolation
import Holdings.Proofs.Registry.Growth
import Holdings.Proofs.Backend.Questions
import Holdings.Proofs.Schema.Transaction
import Holdings.Proofs.Registry.Questions
import Holdings.Proofs.Provider.Questions
import Holdings.Proofs.Http.Inquiry
import Holdings.Proofs.Http.Alike
import Holdings.Proofs.Http.Reached
import Holdings.Proofs.Http.Attribution
import Holdings.Proofs.Http.Absorbing
import Holdings.Proofs.Solana.StoredMetadata
import Holdings.Proofs.Codec.Base64
import Holdings.Proofs.Backend.Addresses
import Holdings.Proofs.Provider.Confinement
import Holdings.Proofs.Json.Limits
import Holdings.Proofs.Json.Showable
import Holdings.Proofs.Evm.Envelope
import Holdings.Proofs.Provider.Failures
import Holdings.Proofs.Amount.Decimal
import Holdings.Proofs.Json.Path
import Holdings.Proofs.Codec.Base58
import Holdings.Proofs.Solana.Addresses
import Holdings.Proofs.Solana.Wallet
import Holdings.Proofs.Backend.Lookups
import Holdings.Proofs.Backend.Serving
import Holdings.Proofs.Provider.Wallets
import Holdings.Proofs.Solana.Extent
import Holdings.Proofs.Text.Lowercase
import Holdings.Proofs.Registry.Changes
import Holdings.Proofs.Registry.History
import Holdings.Proofs.Provider.Tasks
import Holdings.Proofs.Provider.LifeCycle
import Holdings.Proofs.Backend.Batch
import Holdings.Proofs.Backend.Remembering
import Holdings.Proofs.Source.Credentials
import Holdings.Proofs.Provider.Routing
import Holdings.Proofs.Provider.Usable
import Holdings.Proofs.Source.Settings
import Holdings.Proofs.Balances.Tokens
import Holdings.Proofs.Backend.Listings
import Holdings.Proofs.Balances.Units
import Holdings.Proofs.Provider.Twins
import Holdings.Proofs.Registry.Transparency
import Holdings.Proofs.Balances.Shapes
import Holdings.Proofs.Balances.Accounting
import Holdings.Proofs.Text.Hexadecimal
import Holdings.Proofs.Evm.Address
import Holdings.Proofs.Evm.Answers
import Holdings.Proofs.Evm.Estimates
import Holdings.Proofs.Number.Magnitude
import Holdings.Proofs.Amount.Representable
import Holdings.Proofs.Backend.Programs
import Holdings.Proofs.Balances.Collectibles
import Holdings.Proofs.Balances.Rendered
import Holdings.Proofs.Backend.Searches
import Holdings.Proofs.Amount.Refused
import Holdings.Proofs.Backend.Prices
import Holdings.Proofs.Provider.Prices
import Holdings.Proofs.Evm.Pages
import Holdings.Proofs.Evm.Readers
import Holdings.Proofs.Text.Numerals
import Holdings.Proofs.Amount.Spellings
import Holdings.Proofs.Solana.Padding
import Holdings.Proofs.Provider.Passing
import Holdings.Proofs.Network.Connections
