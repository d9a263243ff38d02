import Holdings.Chain.Table
import Holdings.Proofs.Balances.WellFormed
import Holdings.Proofs.Json.Path
import Holdings.Proofs.Json.Showable

/-!
# Non-fungible tokens in the balances

A source lists the non-fungible tokens of a wallet one by one, with texts in all places but one.
What is reported of each is meant to be what the source tells: the address, the number, and the
first name and the first picture that are told, with a stand-in where none is.

Where this fails is told entry by entry.  An indexer that tells null for an address has the whole
report refused, though it may leave the address out, and the number zero is taken for no number.
-/

namespace Holdings

open Outcome

/-! ## What entries tell -/

namespace Json

/-- A text, or null. -/
inductive IsOptionalText : Json → Prop where
  | null : IsOptionalText .null
  | text (written : String) : IsOptionalText (.text written)

/-- An object, or null. -/
inductive IsOptionalObject : Json → Prop where
  | null : IsOptionalObject .null
  | object (members : List (String × Json)) : IsOptionalObject (.object members)

/-- A text, null, or an integer that is short enough to be printed. -/
inductive IsOptionalNumber : Json → Prop where
  | null : IsOptionalNumber .null
  | text (written : String) : IsOptionalNumber (.text written)
  | int
      {value : Int}
      (short : value.natAbs < 10 ^ digitLimit) :
      IsOptionalNumber (.int value)

/-- The text that is told; null tells the empty one. -/
def told : Json → String
  | .text written => written
  | .int value => toString value
  | _ => ""

end Json

/-- What is told of a non-fungible token, before anything stands in for what is missing. -/
structure RawNft where
  address : Json
  tokenId : Json
  name : Json
  /-- Where a collection may be named, the first place first. -/
  collections : List Json
  /-- Where a picture may be told, the first place first. -/
  images : List Json

namespace RawNft

/-- A picture is told as it is, or in several renditions. -/
def imagesOf : Json → List Json
  | .object members =>
    ["cachedUrl", "originalUrl", "thumbnailUrl"].map (Json.object members).getD
  | image => [image]

/-- An indexer tells of the contract, the collection and the market in objects of their own. -/
def ofIndexed
    (listed : Json) :
    RawNft :=
  let contract := listed.getD "contract"
  { address := contract.getD "address"
    tokenId := listed.getD "tokenId"
    name := listed.getD "name"
    collections :=
      [(listed.getD "collection").getD "name",
        (contract.getD "openSeaMetadata").getD "collectionName", contract.getD "name"]
    images := imagesOf (listed.getD "image") }

/-- A node tells everything in one object. -/
def ofNode
    (listed : Json) :
    RawNft where
  address := listed.getD "contractAddress"
  tokenId := listed.getD "tokenId"
  name := listed.getD "name"
  collections := [listed.getD "collectionName"]
  images := imagesOf (listed.getD "image")

/-- Texts stand wherever a text is to be told. -/
structure IsTyped
    (raw : RawNft) :
    Prop where
  address : raw.address.IsOptionalText
  tokenId : raw.tokenId.IsOptionalNumber
  name : raw.name.IsOptionalText
  collections : ∀ place ∈ raw.collections, place.IsOptionalText
  images : ∀ place ∈ raw.images, place.IsOptionalText

/-- The first text that is told and not empty, or a stand-in. -/
def firstTold
    (places : List Json)
    (standIn : String) :
    String :=
  ((places.map Json.told).find? (· ≠ "")).getD standIn

/-- What is to be reported of a token. -/
def balance
    (raw : RawNft) :
    NftBalance where
  mint := raw.address.told
  tokenId := raw.tokenId.told
  collection := firstTold raw.collections unknownCollectionName
  name := firstTold [raw.name] unknownNftName
  image := firstTold raw.images ""

/-- An entry of an indexer with objects and texts in their places. -/
structure IsTypedIndexed
    (listed : Json) :
    Prop where
  entry : ∃ members, listed = .object members
  contract : (listed.getD "contract").IsOptionalObject
  collection : (listed.getD "collection").IsOptionalObject
  market : ((listed.getD "contract").getD "openSeaMetadata").IsOptionalObject
  texts : (ofIndexed listed).IsTyped

/-- An entry of a node with texts in their places. -/
structure IsTypedNode
    (listed : Json) :
    Prop where
  entry : ∃ members, listed = .object members
  texts : (ofNode listed).IsTyped

end RawNft

/-! ## First texts -/

namespace Json

variable {value : Json} {name : String}

theorem orElse_assoc
    (first second third : Json) :
    (first.orElse second).orElse third = first.orElse (second.orElse third) := by
  unfold orElse
  by_cases present : first.isPresent = true
  · simp [present]
  · simp [present]

/-- Of a text or null and a text, the text of the first is taken unless it is empty. -/
theorem IsOptionalText.orElse_text
    (isText : value.IsOptionalText)
    (standIn : String) :
    value.orElse (.text standIn) =
      .text (if value.told ≠ "" then value.told else standIn) := by
  cases isText with
  | null =>
      rfl
  | text written =>
      unfold orElse isPresent told
      by_cases empty : written = ""
      · simp [empty]
      · simp [empty]

/-- An empty text stands in for null. -/
theorem IsOptionalText.orElse_empty
    (isText : value.IsOptionalText) :
    value.orElse (.text "") = .text value.told := by
  rw [isText.orElse_text]
  by_cases empty : value.told = ""
  · simp [empty]
  · simp [empty]

theorem orElse_empty_orElse_empty
    (value : Json) :
    (value.orElse (.text "")).orElse (.text "") = value.orElse (.text "") :=
  orElse_assoc value _ _

theorem lookup_of_object
    (isObject : ∃ members, value = .object members)
    (name : String) :
    value.lookup name = .ok (value.getD name) := by
  rcases isObject with ⟨members, rfl⟩
  rfl

namespace IsOptionalObject

theorem isObject_orEmpty
    (optional : value.IsOptionalObject) :
    ∃ members, value.orEmpty = .object members := by
  cases optional with
  | null =>
      exact ⟨_, rfl⟩
  | object members =>
      cases members with
      | nil =>
          exact ⟨_, rfl⟩
      | cons first rest =>
          exact ⟨_, rfl⟩

theorem get?_orEmpty
    (optional : value.IsOptionalObject)
    (name : String) :
    value.orEmpty.get? name = value.get? name := by
  cases optional with
  | null =>
      rfl
  | object members =>
      cases members with
      | nil =>
          rfl
      | cons first rest =>
          rfl

theorem getD_orEmpty
    (optional : value.IsOptionalObject)
    (name : String) :
    value.orEmpty.getD name = value.getD name := by
  rw [getD, getD, optional.get?_orEmpty]

theorem lookup_orEmpty
    (optional : value.IsOptionalObject)
    (name : String) :
    value.orEmpty.lookup name = .ok (value.getD name) := by
  rw [lookup_of_object optional.isObject_orEmpty, optional.getD_orEmpty]

end IsOptionalObject

end Json

namespace RawNft

theorem firstTold_cons
    (place : Json)
    (rest : List Json)
    (standIn : String) :
    firstTold (place :: rest) standIn =
      if place.told ≠ "" then place.told else firstTold rest standIn := by
  unfold firstTold
  by_cases empty : place.told = ""
  · simp [empty]
  · simp [empty]

/-- Falling back from place to place ends at the first text that is told. -/
theorem foldr_orElse
    {places : List Json}
    (texts : ∀ place ∈ places, place.IsOptionalText)
    (standIn : String) :
    places.foldr Json.orElse (.text standIn) = .text (firstTold places standIn) := by
  induction places with
  | nil =>
      rfl
  | cons place rest induction =>
      have later := induction fun other member => texts other (List.mem_cons_of_mem _ member)
      rw [List.foldr_cons, later, (texts place List.mem_cons_self).orElse_text, firstTold_cons]

/-- The link of a picture is the first that is told, of one or of several. -/
theorem imageLink_orElse
    (image : Json) :
    (Rendering.imageLink image).orElse (.text "") =
      (imagesOf image).foldr Json.orElse (.text "") := by
  cases image with
  | object members =>
      simp only [Rendering.imageLink, imagesOf, Json.orElse_assoc]
      rfl
  | null | bool | int | double | text | array =>
      exact Json.orElse_empty_orElse_empty _

/-! ## What is reported of one entry -/

section Reporting

open Rendering

variable {raw : RawNft} {collection image : Json}

/-- The text of a number: zero has none. -/
def writtenId : Json → String
  | .int 0 => ""
  | given => given.told

theorem writtenId_eq_told_iff
    (given : Json) :
    writtenId given = given.told ↔ given ≠ .int 0 := by
  unfold writtenId
  split
  · simp only [ne_eq, not_true_eq_false, iff_false]
    decide
  · rename_i notZero
    simp only [true_iff]
    exact notZero

theorem tokenIdText_eq
    {given : Json}
    (isNumber : given.IsOptionalNumber) :
    tokenIdText given = .ok (writtenId given) := by
  cases isNumber with
  | null =>
      rfl
  | text written =>
      rw [tokenIdText, (Json.IsOptionalText.text written).orElse_empty]
      rfl
  | @int value short =>
      by_cases isZero : value = 0
      · rw [isZero]
        rfl
      · have present : (Json.int value).isPresent = true := by
          simp [Json.isPresent, isZero]
        have showable := Json.isShowable_int_iff.2 short
        have written : writtenId (.int value) = toString value := by
          rw [(writtenId_eq_told_iff _).2 (by simpa using isZero)]
          rfl
        rw [tokenIdText, Json.orElse, if_pos present, Json.print, Json.printIn,
          if_pos showable, written]
        rfl

/-- An entry is reported as it should be if its address passes for a text and its number is told. -/
theorem nft_eq_ok_balance_iff
    (typed : raw.IsTyped)
    (named : collection.orElse (.text unknownCollectionName) =
      raw.collections.foldr Json.orElse (.text unknownCollectionName))
    (pictured : image.orElse (.text "") = raw.images.foldr Json.orElse (.text ""))
    (mint : Json) :
    (tokenIdText raw.tokenId >>= fun tokenId => nft mint tokenId collection raw.name image) =
        .ok raw.balance ↔
      mint = .text raw.address.told ∧ raw.tokenId ≠ .int 0 := by
  have ownName : raw.name.orElse (.text unknownNftName) =
      .text (firstTold [raw.name] unknownNftName) :=
    foldr_orElse (List.forall_mem_singleton.2 typed.name) unknownNftName
  rw [foldr_orElse typed.collections] at named
  rw [foldr_orElse typed.images] at pictured
  rw [tokenIdText_eq typed.tokenId, ok_bind, ← writtenId_eq_told_iff]
  simp only [nft, named, pictured, ownName, requireText, requireTexts, ok_bind]
  cases mint with
  | text written =>
      simp [balance, ok_bind, pure, Except.pure]
  | _ =>
      simp [bind, Except.bind]

theorem collectionName_eq
    {market own listed : Json}
    (told : collection.lookup "name" = .ok own)
    (marketed : market.lookup "collectionName" = .ok listed)
    (contract : Json) :
    collectionName collection market contract =
      .ok (own.orElse (listed.orElse (contract.getD "name"))) := by
  rw [collectionName, told, ok_bind, marketed]
  cases present : own.isPresent with
  | true =>
      simp [Json.orElse, present, pure, Except.pure]
  | false =>
      simp [Json.orElse, present, pure, Except.pure, bind, Except.bind]

/-- A member that may be missing passes for a text unless it is there and null. -/
theorem getD_eq_text_told_iff
    {held : Option Json}
    (isText : (held.getD .null).IsOptionalText) :
    held.getD (.text "") = .text (held.getD .null).told ↔ held ≠ some .null := by
  cases held with
  | none =>
      simp [Json.told]
  | some value =>
      rw [Option.getD_some] at isText
      cases isText with
      | null =>
          simp
      | text written =>
          simp [Json.told]

/-- An entry of an indexer is reported unless null stands for its address or zero is its number. -/
theorem indexedNft_eq_ok_iff
    {listed : Json}
    (typed : IsTypedIndexed listed) :
    indexedNft listed = .ok (ofIndexed listed).balance ↔
      (listed.getD "contract").get? "address" ≠ some .null ∧
        listed.getD "tokenId" ≠ .int 0 := by
  have contract := Json.lookup_of_object typed.entry "contract"
  have market := typed.contract.lookup_orEmpty "openSeaMetadata"
  have mint : (listed.getD "contract").orEmpty.lookupOr "address" (.text "") =
      .ok (((listed.getD "contract").get? "address").getD (.text "")) := by
    rcases typed.contract.isObject_orEmpty with ⟨members, isObject⟩
    rw [← typed.contract.get?_orEmpty, isObject]
    rfl
  have named := collectionName_eq (typed.collection.lookup_orEmpty "name")
    (typed.market.lookup_orEmpty "collectionName") (listed.getD "contract").orEmpty
  rw [typed.contract.getD_orEmpty] at named
  have places (first second third : Json) (standIn : String) :
      (first.orElse (second.orElse third)).orElse (.text standIn) =
        [first, second, third].foldr Json.orElse (.text standIn) := by
    simp only [Json.orElse_assoc]
    rfl
  have reported := nft_eq_ok_balance_iff typed.texts (places _ _ _ _)
    (imageLink_orElse (listed.getD "image"))
    (((listed.getD "contract").get? "address").getD (.text ""))
  rw [← getD_eq_text_told_iff typed.texts.address]
  simp only [indexedNft, contract, market, mint, named, ok_bind]
  exact reported

/-- An entry of a node is reported unless zero is its number. -/
theorem nodeNft_eq_ok_iff
    {listed : Json}
    (typed : IsTypedNode listed) :
    nodeNft listed = .ok (ofNode listed).balance ↔ listed.getD "tokenId" ≠ .int 0 := by
  have mint := typed.texts.address.orElse_empty
  have reported := nft_eq_ok_balance_iff typed.texts rfl (imageLink_orElse (listed.getD "image"))
    ((listed.getD "contractAddress").orElse (.text ""))
  rw [nodeNft, Json.lookup_of_object typed.entry, ok_bind]
  exact reported.trans (and_iff_right mint)

end Reporting

end RawNft

/-! ## What is reported of a payload -/

namespace Payload

/-- What a payload of an EVM chain tells of non-fungible tokens, in order. -/
def rawNfts : Payload → List RawNft
  | .indexed _ _ nfts _ => nfts.map RawNft.ofIndexed
  | .node _ _ nfts _ => nfts.map RawNft.ofNode
  | .solana .. => []

/-- A payload of an EVM chain has objects and texts in their places. -/
def HasTypedNfts : Payload → Prop
  | .indexed _ _ nfts _ => ∀ listed ∈ nfts, RawNft.IsTypedIndexed listed
  | .node _ _ nfts _ => ∀ listed ∈ nfts, RawNft.IsTypedNode listed
  | .solana .. => False

/-- No entry of an indexer has null for an address, and zero is the number of no entry. -/
def AvoidsNullAndZero : Payload → Prop
  | .indexed _ _ nfts _ =>
    ∀ listed ∈ nfts,
      (listed.getD "contract").get? "address" ≠ some .null ∧ listed.getD "tokenId" ≠ .int 0
  | .node _ _ nfts _ => ∀ listed ∈ nfts, listed.getD "tokenId" ≠ .int 0
  | .solana .. => True

/-- A payload in which no non-fungible token is listed. -/
def withoutNfts : Payload → Payload
  | .indexed native tokens _ failed => .indexed native tokens [] failed
  | .node native tokens _ failed => .node native tokens [] failed
  | .solana native accounts _ failed => .solana native accounts [] failed

end Payload

namespace Rendering

variable {rendering : Rendering} {payload : Payload} {config : ChainConfig} {plain : Balances}

/-- When the rest of a payload is rendered, the whole is rendered if all its entries are. -/
theorem balances_eq_ok_iff_nfts
    (rendered : rendering.balances payload.withoutNfts config = .ok plain)
    {reported : List NftBalance} :
    rendering.balances payload config = .ok { plain with nfts := reported } ↔
      nfts payload = .ok reported := by
  constructor
  · exact fun whole => (parts_of_balances whole).2.2
  · intro entries
    rcases parts_of_balances rendered with ⟨native, tokens, -⟩
    rcases rendering with ⟨family, convertUnits⟩
    cases payload with
    | indexed =>
        cases family with
        | solana =>
            cases rendered
        | evm =>
            rw [nfts] at entries
            rw [Payload.withoutNfts, Payload.native] at native
            rw [Payload.withoutNfts, Rendering.tokens] at tokens
            simp only [balances, native, tokens, entries, ok_bind]
            rfl
    | node =>
        cases family with
        | solana =>
            cases rendered
        | evm =>
            rw [nfts] at entries
            rw [Payload.withoutNfts, Payload.native] at native
            rw [Payload.withoutNfts, Rendering.tokens] at tokens
            simp only [balances, native, tokens, entries, ok_bind]
            rfl
    | solana =>
        cases family with
        | evm =>
            cases rendered
        | solana =>
            rw [nfts] at entries
            rw [Payload.withoutNfts, Payload.native] at native
            rw [Payload.withoutNfts, Rendering.tokens] at tokens
            simp only [balances, native, tokens, entries, ok_bind]
            rfl

/--
What is told of the non-fungible tokens of an EVM chain is reported entry by entry, unless an
entry of an indexer has null for an address or an entry has the number zero.
-/
theorem balances_eq_ok_iff
    (typed : payload.HasTypedNfts)
    (rendered : rendering.balances payload.withoutNfts config = .ok plain) :
    rendering.balances payload config =
        .ok { plain with nfts := payload.rawNfts.map RawNft.balance } ↔
      payload.AvoidsNullAndZero := by
  rw [balances_eq_ok_iff_nfts rendered]
  cases payload with
  | indexed native tokens listed failed =>
      rw [Payload.rawNfts, List.map_map, nfts, mapM_eq_ok_map_iff]
      exact forall₂_congr fun entry member => RawNft.indexedNft_eq_ok_iff (typed entry member)
  | node native tokens listed failed =>
      rw [Payload.rawNfts, List.map_map, nfts, mapM_eq_ok_map_iff]
      exact forall₂_congr fun entry member => RawNft.nodeNft_eq_ok_iff (typed entry member)
  | solana =>
      cases typed

/-- A payload of an indexer in which one token is listed and nothing else. -/
def listing
    (members : List (String × Json)) :
    Payload :=
  .indexed .null [] [.object members] []

/-- The balances of a wallet on Ethereum, in whole units. -/
def onEthereum
    (payload : Payload) :
    Except Fault Balances :=
  (⟨.evm, true⟩ : Rendering).balances payload (Chain.ofId .ethereum).config

/-- A token with a number, which only its market names, and of which one rendition is told. -/
def marketed : List (String × Json) :=
  [("contract", .object
      [("address", .text "0xA"), ("openSeaMetadata", .object [("collectionName", .text "M")])]),
    ("tokenId", .int 7), ("name", .null), ("image", .object [("thumbnailUrl", .text "t")])]

theorem balances_eq_ok_iff_marketed :
    (listing marketed).HasTypedNfts ∧
      onEthereum (listing marketed).withoutNfts = .ok .zero ∧
        (onEthereum (listing marketed) =
            .ok { Balances.zero with nfts := (listing marketed).rawNfts.map RawNft.balance } ↔
          (listing marketed).AvoidsNullAndZero) := by
  have typed : (listing marketed).HasTypedNfts := by
    refine List.forall_mem_singleton.2 ⟨⟨_, rfl⟩, .object _, .null, .object _, ?_⟩
    refine ⟨.text "0xA", .int ?_, .null, ?_, ?_⟩
    · exact (by decide : 7 < 10 ^ 1).trans_le (Nat.pow_le_pow_right (by decide) (by decide))
    · exact List.forall_mem_cons.2 ⟨.null, List.forall_mem_cons.2
        ⟨.text "M", List.forall_mem_singleton.2 .null⟩⟩
    · exact List.forall_mem_cons.2 ⟨.null, List.forall_mem_cons.2
        ⟨.null, List.forall_mem_singleton.2 (.text "t")⟩⟩
  exact ⟨typed, rfl, balances_eq_ok_iff typed rfl⟩

/-- A token whose contract is told with null for its address. -/
def nullAddress : List (String × Json) :=
  [("contract", .object [("address", .null)])]

/-- A token with the number zero. -/
def numberZero : List (String × Json) :=
  [("contract", .object [("address", .text "0xA")]), ("tokenId", .int 0)]

theorem not_balances_eq_ok_null_zero :
    ((listing nullAddress).HasTypedNfts ∧
        onEthereum (listing nullAddress).withoutNfts = .ok .zero ∧
          onEthereum (listing nullAddress) ≠
            .ok { Balances.zero with nfts := (listing nullAddress).rawNfts.map RawNft.balance }) ∧
      (listing numberZero).HasTypedNfts ∧
        onEthereum (listing numberZero).withoutNfts = .ok .zero ∧
          onEthereum (listing numberZero) ≠
            .ok { Balances.zero with nfts := (listing numberZero).rawNfts.map RawNft.balance } := by
  have untold : ∀ place ∈ [Json.null, .null, .null], place.IsOptionalText := by
    intro place member
    simp only [List.mem_cons, List.not_mem_nil, or_false, or_self] at member
    exact member ▸ .null
  have picture : ∀ place ∈ [Json.null], place.IsOptionalText := List.forall_mem_singleton.2 .null
  have nullTyped : (listing nullAddress).HasTypedNfts := by
    refine List.forall_mem_singleton.2 ⟨⟨_, rfl⟩, .object _, .null, .null, ?_⟩
    exact ⟨.null, .null, .null, untold, picture⟩
  have zeroTyped : (listing numberZero).HasTypedNfts := by
    refine List.forall_mem_singleton.2 ⟨⟨_, rfl⟩, .object _, .null, .null, ?_⟩
    exact ⟨.text "0xA", .int (Nat.pow_pos (by decide)), .null, untold, picture⟩
  refine ⟨⟨nullTyped, rfl, ?_⟩, zeroTyped, rfl, ?_⟩
  · have refused : onEthereum (listing nullAddress) =
        .error (.invalidModel "NftBalance" ["mint"]) :=
      rfl
    rw [refused]
    rintro ⟨⟩
  · have reported : onEthereum (listing numberZero) =
        .ok { Balances.zero with
          nfts := [⟨"0xA", "", unknownCollectionName, unknownNftName, ""⟩] } :=
      rfl
    rw [reported]
    intro same
    exact absurd (congrArg Balances.nfts (Except.ok.inj same)) (by decide)

end Rendering

end Holdings
