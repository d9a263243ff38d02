import Holdings.Proofs.Balances.WellFormed
import Holdings.Proofs.Json.Path

/-!
# Tokens of a payload and of balances

Every kind of payload tells three things of a token: where it lies, how much of it there is and
which decimals it has.  Balances have one token for each of these, in the same order, and each
amount is written with the decimals of its own token, or with those of the family when the
token tells none.
-/

namespace Holdings

/-- What a payload tells of a token before anything is made of it. -/
structure RawToken where
  mint : Json
  amount : Json
  decimals : Json

namespace RawToken

/-- A token of an indexer has the decimals that were looked up for it. -/
def ofIndexed
    (listed : IndexedToken) :
    RawToken :=
  ⟨listed.contract, listed.balance, listed.metadata.orEmpty.getD "decimals"⟩

/-- A token of a node tells everything itself. -/
def ofNode
    (listed : Json) :
    RawToken :=
  ⟨listed.getD "contractAddress", listed.getD "balance", listed.getD "decimals"⟩

/-- A token account has decimals of its own, whatever was looked up about its mint. -/
def ofAccount
    (account : TokenAccount) :
    RawToken :=
  ⟨account.mint, account.amount, account.decimals⟩

/-- The whole number that is read from decimals, unless it is negative or there is none. -/
def ownDecimals?
    (raw : RawToken) :
    Option Nat :=
  let whole? : Option Int :=
    match raw.decimals with
    | .int value => some value
    | .double value => value.truncate?
    | .text written => Text.readInteger written
    | _ => none
  (whole?.filter (0 ≤ ·)).map Int.toNat

/-- The decimals of a token: its own, or those of the family. -/
def effectiveDecimals
    (raw : RawToken)
    (rendering : Rendering) :
    Nat :=
  raw.ownDecimals?.getD rendering.defaultDecimals

end RawToken

/-- The tokens of a payload, in order. -/
def Payload.tokens : Payload → List RawToken
  | .indexed _ tokens _ _ => tokens.map RawToken.ofIndexed
  | .node _ tokens _ _ => tokens.map RawToken.ofNode
  | .solana _ accounts _ _ => accounts.map RawToken.ofAccount

namespace Rendering

variable {rendering : Rendering}

/-- A token balance tells of a token of a payload, with an amount in its own decimals. -/
structure Renders
    (rendering : Rendering)
    (raw : RawToken)
    (token : TokenBalance) :
    Prop where
  mint : raw.mint = .text token.mint
  decimals : token.metadata.decimals = raw.effectiveDecimals rendering
  balance : rendering.amount raw.amount (raw.effectiveDecimals rendering) = .ok token.balance

theorem getD_acceptDecimals
    (rendering : Rendering)
    (value : Int) :
    rendering.acceptDecimals value =
      (((some value).filter (0 ≤ ·)).map Int.toNat).getD rendering.defaultDecimals := by
  unfold acceptDecimals
  rw [Option.filter_some]
  by_cases natural : 0 ≤ value
  · rw [if_pos natural, if_pos (decide_eq_true natural)]
    rfl
  · rw [if_neg natural, if_neg fun isTrue => natural (of_decide_eq_true isTrue)]
    rfl

/-- The decimals that are read are those of the token, or of the family. -/
theorem decimals_eq_ok
    (raw : RawToken)
    {decimals : Nat}
    (told : rendering.decimals raw.decimals = .ok decimals) :
    decimals = raw.effectiveDecimals rendering := by
  rcases raw with ⟨mint, amount, given⟩
  cases given with
  | int value =>
      cases told
      exact getD_acceptDecimals rendering value
  | double value =>
      cases value with
      | nan =>
          cases told
          rfl
      | infinite negative =>
          cases told
      | finite negative units =>
          cases told
          exact getD_acceptDecimals rendering _
  | text written =>
      unfold Rendering.decimals at told
      unfold RawToken.effectiveDecimals RawToken.ownDecimals?
      dsimp only at told ⊢
      cases read : Text.readInteger written with
      | none =>
          rw [read] at told
          cases told
          rfl
      | some value =>
          rw [read] at told
          cases told
          exact getD_acceptDecimals rendering value
  | _ =>
      cases told
      rfl

theorem decimals_of_tokenMetadata
    {symbol name : Json}
    {decimals : Nat}
    {metadata : TokenMetadata}
    (told : tokenMetadata symbol decimals name = .ok metadata) :
    metadata.decimals = decimals := by
  rcases Outcome.bind_eq_ok.1 told with ⟨texts, -, same⟩
  cases same
  rfl

/-! ## Tokens one by one -/

theorem renders_token
    {raw : RawToken}
    {symbol name : Json}
    {token : TokenBalance}
    (rendered : rendering.token raw.mint raw.amount (raw.effectiveDecimals rendering) symbol name =
      .ok token) :
    rendering.Renders raw token := by
  rcases Outcome.bind_eq_ok.1 rendered with ⟨balance, written, rest⟩
  rcases Outcome.bind_eq_ok.1 rest with ⟨metadata, told, rest⟩
  rcases Outcome.bind_eq_ok.1 rest with ⟨mint, accepted, same⟩
  cases same
  exact ⟨requireText_eq_ok accepted, decimals_of_tokenMetadata told, written⟩

theorem renders_indexedToken
    {listed : IndexedToken}
    {token : TokenBalance}
    (rendered : rendering.indexedToken listed = .ok token) :
    rendering.Renders (.ofIndexed listed) token := by
  rcases Outcome.bind_eq_ok.1 rendered with ⟨told, looked, rest⟩
  rcases Outcome.bind_eq_ok.1 rest with ⟨decimals, read, rest⟩
  rw [← Json.getD_of_lookup looked] at read
  rw [decimals_eq_ok (.ofIndexed listed) read] at rest
  exact renders_token rest

theorem renders_nodeToken
    {listed : Json}
    {token : TokenBalance}
    (rendered : rendering.nodeToken listed = .ok token) :
    rendering.Renders (.ofNode listed) token := by
  rcases Outcome.bind_eq_ok.1 rendered with ⟨told, looked, rest⟩
  rcases Outcome.bind_eq_ok.1 rest with ⟨decimals, read, rest⟩
  rcases Outcome.bind_eq_ok.1 rest with ⟨mint, there, rest⟩
  rw [← Json.getD_of_lookup looked] at read
  rw [decimals_eq_ok (.ofNode listed) read, ← Json.getD_of_member there] at rest
  exact renders_token rest

theorem renders_accountToken
    {account : TokenAccount}
    {token : TokenBalance}
    (rendered : rendering.accountToken account = .ok token) :
    rendering.Renders (.ofAccount account) token := by
  rcases Outcome.bind_eq_ok.1 rendered with ⟨decimals, read, rest⟩
  rcases Outcome.bind_eq_ok.1 rest with ⟨balance, written, rest⟩
  rcases Outcome.bind_eq_ok.1 rest with ⟨symbol, -, rest⟩
  rcases Outcome.bind_eq_ok.1 rest with ⟨metadata, told, rest⟩
  rcases Outcome.bind_eq_ok.1 rest with ⟨mint, accepted, same⟩
  cases same
  rw [decimals_eq_ok (.ofAccount account) read] at told written
  exact ⟨requireText_eq_ok accepted, decimals_of_tokenMetadata told, written⟩

/-! ## All tokens -/

/-- Balances have the tokens of the payload, one for one and in order. -/
theorem forall₂_renders
    {payload : Payload}
    {config : ChainConfig}
    {balances : Balances}
    (rendered : rendering.balances payload config = .ok balances) :
    List.Forall₂ rendering.Renders payload.tokens balances.tokens := by
  have tokens := (parts_of_balances rendered).2.1
  cases payload with
  | indexed =>
      rw [Payload.tokens, List.forall₂_map_left_iff]
      exact Outcome.forall₂_of_mapM (fun _ _ => renders_indexedToken) tokens
  | node =>
      rw [Payload.tokens, List.forall₂_map_left_iff]
      exact Outcome.forall₂_of_mapM (fun _ _ => renders_nodeToken) tokens
  | solana =>
      rw [Payload.tokens, List.forall₂_map_left_iff]
      exact Outcome.forall₂_of_mapM (fun _ _ => renders_accountToken) tokens

end Rendering

end Holdings
