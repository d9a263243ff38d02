import Holdings.Chain.Basic
import Holdings.Json.Quoted

/-!
# Faults

Everything that can go wrong, by cause.  Behind each fault stands an error with a
text and the name of a type.  For some causes both are our own, for others they are
those of an error that comes from elsewhere, as a whole or within a text of our own.
What is recorded of an error is its text, or the name of its type when it has none,
and what a caller over HTTP is told is its text.
-/

namespace Holdings

/-- The cause of a failure. -/
inductive Fault where
  /- Amounts -/
  | invalidAmount (given : Json)
  | negativeAmount (given : Json)
  | invalidDecimals (decimals : Int)
  | invalidNumeral (given : Json)
  | tooManyPlaces (given : Json) (decimals : Int)
  /-- An integer too long to be read or printed. -/
  | digitLimit
  /-- A working precision beyond the largest one. -/
  | precisionLimit
  /-- A working precision that is no machine word. -/
  | precisionOverflow
  /-- A scaled number with too large an exponent. -/
  | exponentOverflow
  /-- A number that is to be scaled by more places than any number has. -/
  | scaleOutOfRange
  /-- A value that is no integer. -/
  | notAnInteger
  /-- An infinite number where an integer is needed. -/
  | infiniteInteger
  /-- A text that should hold hexadecimal digits. -/
  | notHexadecimal (given : String)
  /- Shapes of values -/
  | missingMember
  | missingItem
  | noMembers
  | wrongShape
  | unknownField
  /- Character sets -/
  /-- A text that cannot be written in a character set. -/
  | unencodable (charset : Text.Charset) (text : String)
  /-- Bytes that are no UTF-8, with the first byte in question. -/
  | undecodable (defect : Text.Utf8Defect) (first : UInt8)
  /- Addresses and accounts -/
  /-- A value that is no address in its normal form. -/
  | unknownAddressFormat (given : Json) (normalized : String)
  | notAHexText (given : String)
  /-- Call data given as a text of something else than hexadecimal digits. -/
  | callDataNotHex (given : String)
  /-- Call data given as an integer below zero, which no bytes stand for. -/
  | negativeCallData
  | notAnAccountAddress
  | notMetadata
  | truncatedMetadata
  | base64Padding
  | base64NotAscii
  /- Calls to the network -/
  | transport (text : String)
  | clientFailed (text : String)
  | timedOut
  | requestFailed (text : String)
  | requestTimedOut (limit : String)
  | badStatus (status : Int) (body : String)
  | malformedResponse
  /-- Arrays and objects within each other, too many to be read or written. -/
  | tooDeep
  | unexpectedResponse (method : String) (response : Json)
  | errorResponse (method : String) (text : Json)
  | missingResult (method : String)
  /-- A node answered with a proper error. -/
  | nodeRefused
  /-- A member of a node's answer that has not the form of what it stands for. -/
  | malformedMember
  /-- The reason of a reversal has something else than a digit at a position. -/
  | reasonNotHex (position : Nat)
  /-- A panic with a code that has no meaning. -/
  | unknownPanic (code : String)
  /-- The parameters of a lookup are no hexadecimal digits. -/
  | lookupNotHex
  /-- A parameter goes on behind the last byte. -/
  | missingBytes
  /-- A parameter is not padded with zeros. -/
  | dirtyPadding
  /-- A parameter lies where none can be. -/
  | badPointer
  /-- A parameter is longer than any string of bytes. -/
  | excessiveLength
  /-- A node answered with no proper envelope, or with nothing. -/
  | badNodeResponse
  | nftStatus (status : Int)
  | nftFailed (text : String)
  | nftMalformed
  | nftTimedOut
  | simulationFailed (error : Json) (chain : ChainId)
  /- Requests -/
  | keyRequired
  | transactionRequired
  | unknownTier (given : Json)
  | cannotMap (family : Family) (payload : String)
  | wrongSource (service : Service)
  | invalidModel (model : String) (fields : List String)
  /- Configuration and routing -/
  | noDataSource (chain : ChainId) (tier : Tier)
  | noNetwork (chain : ChainId) (tier : Tier)
  | noImplementation (chain : String)
  | noRoute (chain : String)
  | noRawCalls (chain : String)
deriving Inhabited, BEq, Repr

/-- The broad classes of faults, by who has to act on them. -/
inductive FaultClass where
  /-- The chain is not served. -/
  | unsupportedChain
  /-- A credential or an endpoint is missing. -/
  | configuration
  /-- A call to the network failed. -/
  | transport
  /-- A value is not acceptable. -/
  | value
  /-- Anything else. -/
  | other
deriving DecidableEq, Repr

/-- The name of the type of an error of our own; those of no other class are errors of type. -/
def FaultClass.typeName : FaultClass → String
  | .unsupportedChain => "UnsupportedChainError"
  | .configuration => "ConfigurationError"
  | .transport => "TransportError"
  | .value => "ValueError"
  | .other => "TypeError"

theorem FaultClass.typeName_ne
    (kind : FaultClass) :
    kind.typeName ≠ "" := by
  cases kind <;> decide

/-- How an error words itself: its text, which may be empty, and the name of its type. -/
structure Wording where
  text : String
  typeName : String
  named : typeName ≠ ""

namespace Wording

/-- An error from elsewhere of which nothing is known. -/
def unknown : Wording := ⟨"", "Exception", by decide⟩

/-- What is recorded of an error: its text, or the name of its type when that is empty. -/
def summary
    (wording : Wording) :
    String :=
  if wording.text = "" then wording.typeName else wording.text

theorem summary_ne
    (wording : Wording) :
    wording.summary ≠ "" := by
  unfold summary
  split
  · exact wording.named
  · next spoken => exact spoken

end Wording

namespace Fault

/-- The class of a fault. -/
def kind : Fault → FaultClass
  | .noImplementation _ | .noRoute _ | .noRawCalls _ => .unsupportedChain
  | .noDataSource _ _ | .noNetwork _ _ => .configuration
  | .transport _ | .requestFailed _ | .requestTimedOut _ | .badStatus _ _
  | .malformedResponse | .unexpectedResponse _ _ | .errorResponse _ _ | .missingResult _
  | .nftStatus _ | .nftFailed _ | .nftMalformed | .nftTimedOut
  | .simulationFailed _ _ => .transport
  | .invalidAmount _ | .negativeAmount _ | .invalidDecimals _ | .invalidNumeral _
  | .tooManyPlaces _ _ | .digitLimit | .precisionLimit | .notAnInteger
  | .notHexadecimal _ | .unknownField | .unknownAddressFormat _ _ | .notAHexText _
  | .callDataNotHex _ | .negativeCallData | .malformedMember | .notAnAccountAddress
  | .unencodable _ _ | .undecodable _ _ | .reasonNotHex _ | .lookupNotHex
  | .notMetadata | .truncatedMetadata | .base64Padding
  | .base64NotAscii | .keyRequired | .transactionRequired | .unknownTier _
  | .invalidModel _ _ => .value
  | .precisionOverflow | .exponentOverflow | .scaleOutOfRange | .infiniteInteger
  | .tooDeep | .missingMember | .missingItem | .noMembers | .wrongShape | .clientFailed _
  | .timedOut | .nodeRefused | .badNodeResponse | .unknownPanic _ | .missingBytes
  | .dirtyPadding | .badPointer | .excessiveLength
  | .cannotMap _ _ | .wrongSource _ => .other

/-- The name of what a family of chains is mapped by. -/
def adapterName : Family → String
  | .evm => "EvmBalanceAdapter"
  | .solana => "SolanaBalanceAdapter"

/-- The name of a service's data source in messages. -/
def sourceTypeName : Service → String
  | .alchemy => "AlchemySource"
  | .quicknode => "QuickNodeSource"
  | .rpc => "RpcSource"

/-- The wording of a fault, for the causes that have one of their own. -/
def message : Fault → Option String
  | .invalidAmount given => some s!"Invalid raw amount: {given.quoted}"
  | .negativeAmount given => some s!"Negative raw amount: {given.quoted}"
  | .invalidDecimals decimals => some s!"Invalid decimals: {decimals}"
  | .invalidNumeral given => some s!"Invalid decimal amount: {given.quoted}"
  | .tooManyPlaces given decimals =>
    some s!"{given.shown} has more than {decimals} decimal places"
  | .notMetadata => some "Not a Metaplex metadata account"
  | .transport text => some text
  | .clientFailed text => some text
  | .requestFailed text => some s!"Request failed: {text}"
  | .requestTimedOut limit => some s!"Request timed out after {limit}s"
  | .badStatus status body =>
    some s!"HTTP {status} from upstream: {Text.takePoints 200 body}"
  | .malformedResponse => some "Malformed JSON in upstream response"
  | .unexpectedResponse method response =>
    some s!"Unexpected response to {method}: {response.quoted}"
  | .errorResponse method text => some s!"{method} returned an error: {text.shown}"
  | .missingResult method => some s!"{method} returned no result"
  | .nftStatus status => some s!"HTTP {status} from Alchemy NFT API"
  | .nftFailed text => some s!"Alchemy NFT API request failed: {text}"
  | .nftTimedOut => some "Alchemy NFT API request timed out"
  | .simulationFailed error _ => some s!"Transaction simulation failed: {error.shown}"
  | .keyRequired => some "Alchemy API key is required"
  | .transactionRequired =>
    some "Solana estimation needs a base64 encoded transaction in 'data'"
  | .unknownTier given => some s!"{given.quoted} is not a valid NetworkTier"
  | .cannotMap family payload => some s!"{adapterName family} cannot map {payload}"
  | .wrongSource service =>
    some s!"Alchemy strategy needs an AlchemySource, got {sourceTypeName service}"
  | .noDataSource chain tier =>
    some s!"No configured data source for {chain.name} {tier.name}"
  | .noNetwork chain tier => some s!"Alchemy has no {tier.name} network for {chain.name}"
  | .noImplementation chain => some s!"No implementation for chain: {chain}"
  | .noRoute chain => some s!"No provider route for chain: {chain}"
  | .noRawCalls chain => some s!"Chain {chain} does not expose raw RPC calls"
  | _ => none

/-- The chain that a fault names, as it was spelled. -/
def chain? : Fault → Option String
  | .simulationFailed _ chain => some chain.name
  | .noDataSource chain _ => some chain.name
  | .noNetwork chain _ => some chain.name
  | .noImplementation chain => some chain
  | .noRoute chain => some chain
  | .noRawCalls chain => some chain
  | _ => none

/-- The number of characters of a refused numeral that are told. -/
def numeralExcerpt : Nat := 200

/-- What a library says when it refuses a value, for the causes for which this is known. -/
def refusal : Fault → Option String
  | .digitLimit =>
    some ("Exceeds the limit (4300 digits) for integer string conversion; " ++
      "use sys.set_int_max_str_digits() to increase the limit")
  | .notHexadecimal given =>
    some ("invalid literal for int() with base 16: " ++
      Text.takePoints numeralExcerpt (Json.quotedText given))
  | .unknownAddressFormat given normalized =>
    some (s!"Unknown format {given.quoted}, attempted to normalize to " ++
      Json.quotedText normalized)
  | .notAHexText given | .callDataNotHex given =>
    some s!"when sending a str, it must be a hex string. Got: {Json.quotedText given}"
  | .unencodable charset text => some (charset.complaint text)
  | .undecodable defect first => some (defect.complaint first)
  | .reasonNotHex position =>
    some s!"non-hexadecimal number found in fromhex() arg at position {position}"
  | .lookupNotHex => some "Non-hexadecimal digit found"
  | _ => none

/--
How the error behind a fault words itself.  Where it is an error from elsewhere, or is worded
after one, this depends on how that one words itself.
-/
def told
    (fault : Fault)
    (foreign : Wording) :
    Wording :=
  match fault with
  | .timedOut => ⟨"", "TimeoutError", by decide⟩
  | .clientFailed text => ⟨text, "ClientError", by decide⟩
  | .truncatedMetadata =>
    ⟨"Truncated metadata account: " ++ foreign.text, "ValueError", by decide⟩
  | .nftMalformed =>
    ⟨"Alchemy NFT API request failed: " ++ foreign.text, "TransportError", by decide⟩
  | fault =>
    match fault.message, fault.refusal with
    | some text, _ => ⟨text, fault.kind.typeName, fault.kind.typeName_ne⟩
    | none, some text => { foreign with text := text }
    | none, none => foreign

/-- What a caller over HTTP is told about a fault. -/
def detail
    (fault : Fault) :
    String :=
  (fault.told .unknown).text

/-- A fault that names a value, unless the value has an integer too long to be printed. -/
def naming
    (given : Json)
    (fault : Fault) :
    Fault :=
  if given.isShowable then fault else .digitLimit

end Fault

end Holdings
