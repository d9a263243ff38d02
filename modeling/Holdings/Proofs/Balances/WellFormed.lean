import Holdings.Balances.Rendering
import Holdings.Proofs.Amount.Writing

/-!
# Well-formed balances

Whatever a payload holds, the balances that are rendered from it have plain
decimal numbers for amounts and texts that are not empty for names and symbols.
-/

namespace Holdings

/-! ## Amounts -/

namespace Amount

open Holdings.Text

theorem normalize_eq_ok
    {given : Json}
    {decimals : Int}
    {text : String}
    (written : normalize given decimals = .ok text) :
    ∃ amount, read given = .ok amount ∧ text = wholeUnits amount decimals.toNat := by
  rcases Outcome.bind_eq_ok.1 written with ⟨places, checked, -⟩
  have natural : 0 ≤ decimals := by
    unfold checkDecimals at checked
    split at checked
    · cases checked
    · next notNegative => exact Int.not_lt.1 notNegative
  rcases Int.eq_ofNat_of_zero_le natural with ⟨count, rfl⟩
  have ends := writesTo_normalize given count
  rw [written] at ends
  cases ends with
  | @written amount readable writable =>
      exact ⟨amount, readable, PlainDecimal.text_ofAmount amount count⟩

end Amount

/--
A text that is a plain decimal number, and an integer if it stands for the smallest unit.
-/
def IsAmountText
    (convertUnits : Bool)
    (text : String) :
    Prop :=
  ∃ number : Amount.PlainDecimal,
    text = number.text ∧ (convertUnits = false → number.places = [])

theorem isAmountText_decimalText
    (convertUnits : Bool)
    (amount : Nat) :
    IsAmountText convertUnits (Text.decimalText amount) := by
  refine ⟨.ofAmount amount 0, ?_, ?_⟩
  · rw [Amount.PlainDecimal.text_ofAmount, Amount.wholeUnits_no_decimals]
  · intro _
    exact Amount.PlainDecimal.places_ofAmount_zero amount

theorem isAmountText_zero
    (convertUnits : Bool) :
    IsAmountText convertUnits "0" :=
  isAmountText_decimalText convertUnits 0

/-! ## Parts of balances -/

/-- A token balance with a plain amount, a symbol and a name. -/
structure TokenBalance.IsWellFormed
    (convertUnits : Bool)
    (token : TokenBalance) :
    Prop where
  balance : IsAmountText convertUnits token.balance
  symbol_ne_empty : token.metadata.symbol ≠ ""
  name_ne_empty : token.metadata.name ≠ ""

/-- A non-fungible token with a name and a collection. -/
structure NftBalance.IsWellFormed
    (nft : NftBalance) :
    Prop where
  name_ne_empty : nft.name ≠ ""
  collection_ne_empty : nft.collection ≠ ""

/-- Balances whose parts are well formed. -/
structure Balances.IsWellFormed
    (convertUnits : Bool)
    (balances : Balances) :
    Prop where
  native : IsAmountText convertUnits balances.native
  tokens : ∀ token ∈ balances.tokens, token.IsWellFormed convertUnits
  nfts : ∀ nft ∈ balances.nfts, nft.IsWellFormed

theorem Balances.isWellFormed_zero
    (convertUnits : Bool) :
    Balances.zero.IsWellFormed convertUnits := by
  constructor
  · exact isAmountText_zero convertUnits
  · simp
  · simp

/-! ## What renderings give -/

namespace Rendering

theorem isAmountText_convert
    {rendering : Rendering}
    {given : Json}
    {decimals : Int}
    {text : String}
    (converted : rendering.convert given decimals = .ok text) :
    IsAmountText rendering.convertUnits text := by
  unfold convert at converted
  by_cases converts : rendering.convertUnits = true
  · rw [if_pos converts] at converted
    rcases Amount.normalize_eq_ok converted with ⟨amount, -, rfl⟩
    refine ⟨.ofAmount amount decimals.toNat, ?_, ?_⟩
    · rw [Amount.PlainDecimal.text_ofAmount]
    · simp [converts]
  · rw [if_neg converts] at converted
    rcases Outcome.bind_eq_ok.1 converted with ⟨amount, -, printed⟩
    unfold Amount.print at printed
    split at printed
    · cases printed
      exact isAmountText_decimalText _ amount
    · cases printed

theorem isAmountText_amount
    {rendering : Rendering}
    {given : Json}
    {decimals : Int}
    {text : String}
    (rendered : rendering.amount given decimals = .ok text) :
    IsAmountText rendering.convertUnits text := by
  unfold amount at rendered
  split at rendered
  · rename_i converted
    cases rendered
    exact isAmountText_convert converted
  · split at rendered
    · split at rendered
      · cases rendered
        exact isAmountText_zero _
      · cases rendered
    · cases rendered

/-- A text that stands in for a missing value is there when the value is not. -/
theorem ne_empty_of_orElse
    {given : Json}
    {standIn written : String}
    (standIn_ne_empty : standIn ≠ "")
    (told : given.orElse (.text standIn) = .text written) :
    written ≠ "" := by
  unfold Json.orElse at told
  by_cases isPresent : given.isPresent = true
  · rw [if_pos isPresent] at told
    rw [told] at isPresent
    simpa [Json.isPresent] using isPresent
  · rw [if_neg isPresent] at told
    cases told
    exact standIn_ne_empty

theorem requireTexts_eq_ok
    {model : String}
    {first second : String × Json}
    {left right : String}
    (accepted : requireTexts model first second = .ok (left, right)) :
    first.2 = .text left ∧ second.2 = .text right := by
  unfold requireTexts at accepted
  split at accepted
  · rename_i firstText secondText
    cases accepted
    exact ⟨firstText, secondText⟩
  · cases accepted

theorem requireText_eq_ok
    {model name written : String}
    {value : Json}
    (accepted : requireText model name value = .ok written) :
    value = .text written := by
  unfold requireText at accepted
  split at accepted
  · cases accepted
    rfl
  · cases accepted

theorem ne_empty_of_tokenMetadata
    {symbol name : Json}
    {decimals : Nat}
    {metadata : TokenMetadata}
    (told : tokenMetadata symbol decimals name = .ok metadata) :
    metadata.symbol ≠ "" ∧ metadata.name ≠ "" := by
  rcases Outcome.bind_eq_ok.1 told with ⟨⟨nameText, symbolText⟩, accepted, same⟩
  cases same
  rcases requireTexts_eq_ok accepted with ⟨nameTold, symbolTold⟩
  constructor
  · exact ne_empty_of_orElse (by decide) symbolTold
  · exact ne_empty_of_orElse (by decide) nameTold

theorem isWellFormed_token
    {rendering : Rendering}
    {mint amount symbol name : Json}
    {decimals : Nat}
    {token : TokenBalance}
    (rendered : rendering.token mint amount decimals symbol name = .ok token) :
    token.IsWellFormed rendering.convertUnits := by
  rcases Outcome.bind_eq_ok.1 rendered with ⟨balance, amountRendered, rest⟩
  rcases Outcome.bind_eq_ok.1 rest with ⟨metadata, metadataTold, rest⟩
  rcases Outcome.bind_eq_ok.1 rest with ⟨mintText, mintAccepted, same⟩
  cases same
  rcases ne_empty_of_tokenMetadata metadataTold with ⟨symbolThere, nameThere⟩
  exact ⟨isAmountText_amount amountRendered, symbolThere, nameThere⟩

theorem isWellFormed_nft
    {mint collection name image : Json}
    {tokenId : String}
    {token : NftBalance}
    (rendered : nft mint tokenId collection name image = .ok token) :
    token.IsWellFormed := by
  rcases Outcome.bind_eq_ok.1 rendered with ⟨collectionText, collectionAccepted, rest⟩
  rcases Outcome.bind_eq_ok.1 rest with ⟨⟨imageText, nameText⟩, textsAccepted, rest⟩
  rcases Outcome.bind_eq_ok.1 rest with ⟨mintText, mintAccepted, same⟩
  cases same
  constructor
  · exact ne_empty_of_orElse (by decide) (requireTexts_eq_ok textsAccepted).2
  · exact ne_empty_of_orElse (by decide) (requireText_eq_ok collectionAccepted)

theorem isWellFormed_indexedToken
    {rendering : Rendering}
    {listed : IndexedToken}
    {token : TokenBalance}
    (rendered : rendering.indexedToken listed = .ok token) :
    token.IsWellFormed rendering.convertUnits := by
  rcases Outcome.bind_eq_ok.1 rendered with ⟨told, -, rest⟩
  rcases Outcome.bind_eq_ok.1 rest with ⟨decimals, -, rest⟩
  exact isWellFormed_token rest

theorem isWellFormed_nodeToken
    {rendering : Rendering}
    {listed : Json}
    {token : TokenBalance}
    (rendered : rendering.nodeToken listed = .ok token) :
    token.IsWellFormed rendering.convertUnits := by
  rcases Outcome.bind_eq_ok.1 rendered with ⟨told, -, rest⟩
  rcases Outcome.bind_eq_ok.1 rest with ⟨decimals, -, rest⟩
  rcases Outcome.bind_eq_ok.1 rest with ⟨mint, -, rest⟩
  exact isWellFormed_token rest

theorem isWellFormed_accountToken
    {rendering : Rendering}
    {account : TokenAccount}
    {token : TokenBalance}
    (rendered : rendering.accountToken account = .ok token) :
    token.IsWellFormed rendering.convertUnits := by
  rcases Outcome.bind_eq_ok.1 rendered with ⟨decimals, -, rest⟩
  rcases Outcome.bind_eq_ok.1 rest with ⟨balance, amountRendered, rest⟩
  rcases Outcome.bind_eq_ok.1 rest with ⟨symbol, -, rest⟩
  rcases Outcome.bind_eq_ok.1 rest with ⟨metadata, metadataTold, rest⟩
  rcases Outcome.bind_eq_ok.1 rest with ⟨mint, -, same⟩
  cases same
  rcases ne_empty_of_tokenMetadata metadataTold with ⟨symbolThere, nameThere⟩
  exact ⟨isAmountText_amount amountRendered, symbolThere, nameThere⟩

theorem isWellFormed_indexedNft
    {listed : Json}
    {token : NftBalance}
    (rendered : indexedNft listed = .ok token) :
    token.IsWellFormed := by
  rcases Outcome.bind_eq_ok.1 rendered with ⟨contract, -, rest⟩
  rcases Outcome.bind_eq_ok.1 rest with ⟨market, -, rest⟩
  rcases Outcome.bind_eq_ok.1 rest with ⟨mint, -, rest⟩
  rcases Outcome.bind_eq_ok.1 rest with ⟨tokenId, -, rest⟩
  rcases Outcome.bind_eq_ok.1 rest with ⟨collection, -, rest⟩
  exact isWellFormed_nft rest

theorem isWellFormed_nodeNft
    {listed : Json}
    {token : NftBalance}
    (rendered : nodeNft listed = .ok token) :
    token.IsWellFormed := by
  rcases Outcome.bind_eq_ok.1 rendered with ⟨mint, -, rest⟩
  rcases Outcome.bind_eq_ok.1 rest with ⟨tokenId, -, rest⟩
  exact isWellFormed_nft rest

theorem isWellFormed_solanaNft
    {listed : Json}
    {token : NftBalance}
    (rendered : solanaNft listed = .ok token) :
    token.IsWellFormed := by
  rcases Outcome.bind_eq_ok.1 rendered with ⟨mint, -, rest⟩
  exact isWellFormed_nft rest

/-- The tokens that a payload reports. -/
def tokens
    (rendering : Rendering) :
    Payload → Except Fault (List TokenBalance)
  | .indexed _ tokens _ _ => tokens.mapM rendering.indexedToken
  | .node _ tokens _ _ => tokens.mapM rendering.nodeToken
  | .solana _ accounts _ _ => accounts.mapM rendering.accountToken

/-- The non-fungible tokens that a payload reports. -/
def nfts : Payload → Except Fault (List NftBalance)
  | .indexed _ _ nfts _ => nfts.mapM indexedNft
  | .node _ _ nfts _ => nfts.mapM nodeNft
  | .solana _ _ nfts _ => nfts.mapM solanaNft

/-- Balances are rendered part by part, whatever the order is. -/
theorem parts_of_balances
    {rendering : Rendering}
    {payload : Payload}
    {config : ChainConfig}
    {balances : Balances}
    (rendered : rendering.balances payload config = .ok balances) :
    rendering.amount payload.native config.nativeDecimals = .ok balances.native ∧
      rendering.tokens payload = .ok balances.tokens ∧ nfts payload = .ok balances.nfts := by
  unfold Rendering.balances at rendered
  split at rendered
  · rcases Outcome.bind_eq_ok.1 rendered with ⟨native, nativeRendered, rest⟩
    rcases Outcome.bind_eq_ok.1 rest with ⟨tokens, tokensRendered, rest⟩
    rcases Outcome.bind_eq_ok.1 rest with ⟨nfts, nftsRendered, same⟩
    cases same
    exact ⟨nativeRendered, tokensRendered, nftsRendered⟩
  · rcases Outcome.bind_eq_ok.1 rendered with ⟨native, nativeRendered, rest⟩
    rcases Outcome.bind_eq_ok.1 rest with ⟨tokens, tokensRendered, rest⟩
    rcases Outcome.bind_eq_ok.1 rest with ⟨nfts, nftsRendered, same⟩
    cases same
    exact ⟨nativeRendered, tokensRendered, nftsRendered⟩
  · rcases Outcome.bind_eq_ok.1 rendered with ⟨tokens, tokensRendered, rest⟩
    rcases Outcome.bind_eq_ok.1 rest with ⟨native, nativeRendered, rest⟩
    rcases Outcome.bind_eq_ok.1 rest with ⟨nfts, nftsRendered, same⟩
    cases same
    exact ⟨nativeRendered, tokensRendered, nftsRendered⟩
  · cases rendered

/-- Whatever a payload holds, balances that are rendered from it are well formed. -/
theorem isWellFormed_balances
    {rendering : Rendering}
    {payload : Payload}
    {config : ChainConfig}
    {balances : Balances}
    (rendered : rendering.balances payload config = .ok balances) :
    balances.IsWellFormed rendering.convertUnits := by
  rcases parts_of_balances rendered with ⟨native, tokens, nfts⟩
  refine ⟨isAmountText_amount native, ?_, ?_⟩
  · cases payload with
    | indexed =>
        exact Outcome.forall_of_mapM (fun _ _ => isWellFormed_indexedToken) tokens
    | node =>
        exact Outcome.forall_of_mapM (fun _ _ => isWellFormed_nodeToken) tokens
    | solana =>
        exact Outcome.forall_of_mapM (fun _ _ => isWellFormed_accountToken) tokens
  · cases payload with
    | indexed =>
        exact Outcome.forall_of_mapM (fun _ _ => isWellFormed_indexedNft) nfts
    | node =>
        exact Outcome.forall_of_mapM (fun _ _ => isWellFormed_nodeNft) nfts
    | solana =>
        exact Outcome.forall_of_mapM (fun _ _ => isWellFormed_solanaNft) nfts

end Rendering

end Holdings
