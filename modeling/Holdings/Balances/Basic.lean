import Holdings.Json.Basic

/-!
# Balances of a wallet

What a wallet holds, in the one shape in which every source is reported: the
native balance, the tokens and the non-fungible tokens.
-/

namespace Holdings

/-- The symbol of a token that has none. -/
def unknownSymbol : String := "UNKNOWN"

/-- The name of a token that has none. -/
def unknownTokenName : String := "Unknown Token"

/-- The name of a non-fungible token that has none. -/
def unknownNftName : String := "Unknown NFT"

/-- The name of a collection that has none. -/
def unknownCollectionName : String := "Unknown Collection"

/-- What is told about a token. -/
structure TokenMetadata where
  symbol : String
  decimals : Nat
  name : String
deriving DecidableEq, Repr, Inhabited

/-- How much of one token a wallet holds. -/
structure TokenBalance where
  mint : String
  balance : String
  metadata : TokenMetadata
deriving DecidableEq, Repr, Inhabited

/-- One non-fungible token of a wallet. -/
structure NftBalance where
  mint : String
  tokenId : String
  collection : String
  name : String
  image : String
deriving DecidableEq, Repr, Inhabited

/-- Everything that a wallet holds on one chain. -/
structure Balances where
  native : String
  tokens : List TokenBalance
  nfts : List NftBalance
deriving DecidableEq, Repr, Inhabited

namespace TokenMetadata

/-- The public form of what is told about a token. -/
def toJson
    (metadata : TokenMetadata) :
    Json :=
  .object
    [("symbol", .text metadata.symbol),
      ("decimals", .int metadata.decimals),
      ("name", .text metadata.name)]

end TokenMetadata

namespace TokenBalance

/-- The public form of a token balance. -/
def toJson
    (token : TokenBalance) :
    Json :=
  .object
    [("mint", .text token.mint),
      ("balance", .text token.balance),
      ("tokenMetadata", token.metadata.toJson)]

end TokenBalance

namespace NftBalance

/-- The public form of a non-fungible token. -/
def toJson
    (nft : NftBalance) :
    Json :=
  .object
    [("mint", .text nft.mint),
      ("tokenId", .text nft.tokenId),
      ("tokenMetadata", .object
        [("collection", .object [("name", .text nft.collection)]),
          ("name", .text nft.name),
          ("image", .text nft.image)])]

end NftBalance

namespace Balances

/-- The balances that are reported when nothing could be found out. -/
def zero : Balances := ⟨"0", [], []⟩

/-- The public form of the balances of a wallet. -/
def toJson
    (balances : Balances) :
    Json :=
  .object
    [("nativeBalance", .object [("balance", .text balances.native)]),
      ("tokens", .array (balances.tokens.map TokenBalance.toJson)),
      ("nfts", .array (balances.nfts.map NftBalance.toJson))]

@[simp]
theorem native_zero :
    zero.native = "0" :=
  rfl

@[simp]
theorem tokens_zero :
    zero.tokens = [] :=
  rfl

@[simp]
theorem nfts_zero :
    zero.nfts = [] :=
  rfl

end Balances

end Holdings
