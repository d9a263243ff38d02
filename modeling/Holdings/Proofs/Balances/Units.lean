import Holdings.Chain.Table
import Holdings.Proofs.Balances.Native
import Holdings.Proofs.Balances.Tokens

/-!
# Balances in both units

A payload is rendered in whole units or in the smallest ones.  Both renderings read the same
amounts, and an amount that the one refuses is refused by the other, so that one of them comes to
balances exactly when the other does.  They differ in the texts of the amounts alone, and the
smallest units are what the whole ones read back as.
-/

namespace Holdings

open Outcome

namespace Amount

open Holdings.Text

/-- The most decimals for which a working precision holds every amount that can be printed. -/
def decimalsCap : Nat := 10 ^ 17

/-- With so many decimals, an amount that can be printed does not exhaust the precision. -/
theorem isPrecise_of_le_cap
    {amount decimals : Nat}
    (printable : amount < 10 ^ numeralLimit)
    (few : decimals ≤ decimalsCap) :
    IsPrecise (digitCount amount) decimals := by
  apply isPrecise_of_lt printable
  unfold decimalsCap at few
  unfold precisionCap numeralLimit
  omega

theorem toSmallestUnit_zero
    {decimals : Nat}
    (few : decimals ≤ decimalsCap) :
    toSmallestUnit (.text "0") decimals = .ok "0" := by
  have printable : 0 < 10 ^ numeralLimit := Nat.pow_pos (by decide)
  have readsBack := toSmallestUnit_text (PlainDecimal.value_ofAmount 0 decimals) printable
    (isPrecise_of_le_cap printable few)
  rw [PlainDecimal.text_ofAmount, wholeUnits_zero] at readsBack
  exact readsBack

end Amount

namespace Rendering

/-- How a family is rendered in whole units. -/
abbrev inWholeUnits
    (family : Family) :
    Rendering :=
  ⟨family, true⟩

/-- How a family is rendered in smallest units. -/
abbrev inSmallestUnits
    (family : Family) :
    Rendering :=
  ⟨family, false⟩

variable {family : Family}

/-! ## Amounts -/

/-- Of two texts, the second is the amount in smallest units that the first is in whole ones. -/
def IsInSmallestUnits
    (decimals : Int)
    (whole smallest : String) :
    Prop :=
  Amount.toSmallestUnit (.text whole) decimals = .ok smallest

/-- An amount that is refused is refused in both units, and is zero in both or a fault in both. -/
theorem endAlike_amount_of_error
    {given : Json}
    {decimals : Nat}
    {fault other : Fault}
    (few : decimals ≤ Amount.decimalsCap)
    (whole : (inWholeUnits family).convert given decimals = .error fault)
    (smallest : (inSmallestUnits family).convert given decimals = .error other)
    (isValue : fault.kind = .value)
    (otherIsValue : other.kind = .value) :
    EndAlike (IsInSmallestUnits decimals)
      ((inWholeUnits family).amount given decimals)
      ((inSmallestUnits family).amount given decimals) := by
  simp only [amount, whole, smallest, isValue, otherIsValue, if_true]
  by_cases showable : given.isShowable = true
  · simp only [if_pos showable]
    exact .ok (Amount.toSmallestUnit_zero few)
  · simp only [if_neg showable]
    exact .error .digitLimit

/-- However an amount is given, it is rendered in both units or in neither of them. -/
theorem endAlike_amount
    (given : Json)
    {decimals : Nat}
    (few : decimals ≤ Amount.decimalsCap) :
    EndAlike (IsInSmallestUnits decimals)
      ((inWholeUnits family).amount given decimals)
      ((inSmallestUnits family).amount given decimals) := by
  have whole : (inWholeUnits family).convert given decimals = Amount.normalize given decimals :=
    rfl
  have smallest : (inSmallestUnits family).convert given decimals =
      Amount.read given >>= Amount.print :=
    rfl
  cases readable : Amount.read given with
  | error fault =>
      have isValue := Amount.kind_of_read readable
      rw [Amount.normalize, Amount.checkDecimals_natCast, ok_bind, readable] at whole
      rw [readable] at smallest
      exact endAlike_amount_of_error few whole smallest isValue isValue
  | ok amount =>
      rw [readable, ok_bind, Amount.print, Nat.pow_eq] at smallest
      by_cases printable : amount < 10 ^ Text.numeralLimit
      · have precise := Amount.isPrecise_of_le_cap printable few
        rw [Amount.normalize_eq_text readable printable precise] at whole
        simp only [if_pos printable] at smallest
        rw [amount_of_convert whole, amount_of_convert smallest]
        exact .ok (Amount.toSmallestUnit_text (Amount.PlainDecimal.value_ofAmount amount decimals)
          printable precise)
      · -- An amount that is too long to be printed is refused before it is converted.
        have notZero : amount ≠ 0 := by
          intro isZero
          rw [isZero] at printable
          exact printable (Nat.pow_pos (by decide))
        have tooLong := Nat.not_lt.1 printable
        rw [Amount.normalize, Amount.checkDecimals_natCast, ok_bind, readable, ok_bind,
          if_neg notZero, Nat.pow_eq] at whole
        simp only [if_pos tooLong] at whole
        simp only [if_neg printable] at smallest
        exact endAlike_amount_of_error few whole smallest rfl rfl

/-! ## Tokens -/

/-- Two balances of one token, the first in whole units and the second in smallest ones. -/
structure TokensDiffer
    (whole smallest : TokenBalance) :
    Prop where
  mint : whole.mint = smallest.mint
  metadata : whole.metadata = smallest.metadata
  balance : IsInSmallestUnits whole.metadata.decimals whole.balance smallest.balance

theorem endAlike_token
    {raw : RawToken}
    {symbol name : Json}
    (few : raw.effectiveDecimals (inWholeUnits family) ≤ Amount.decimalsCap) :
    EndAlike TokensDiffer
      ((inWholeUnits family).token raw.mint raw.amount
        (raw.effectiveDecimals (inWholeUnits family)) symbol name)
      ((inSmallestUnits family).token raw.mint raw.amount
        (raw.effectiveDecimals (inWholeUnits family)) symbol name) := by
  apply (endAlike_amount raw.amount few).bind
  intro whole smallest converted
  apply EndAlike.bind_same
  intro metadata told
  apply EndAlike.bind_same
  intro mint accepted
  refine .ok ⟨rfl, rfl, ?_⟩
  rw [decimals_of_tokenMetadata told]
  exact converted

/-- Decimals are read in the same way whatever the unit is. -/
theorem decimals_inSmallestUnits
    (family : Family)
    (given : Json) :
    (inSmallestUnits family).decimals given = (inWholeUnits family).decimals given :=
  rfl

theorem endAlike_indexedToken
    {listed : IndexedToken}
    (few : (RawToken.ofIndexed listed).effectiveDecimals (inWholeUnits family) ≤
      Amount.decimalsCap) :
    EndAlike TokensDiffer
      ((inWholeUnits family).indexedToken listed)
      ((inSmallestUnits family).indexedToken listed) := by
  apply EndAlike.bind_same
  intro told looked
  rw [decimals_inSmallestUnits]
  apply EndAlike.bind_same
  intro decimals read
  rw [← Json.getD_of_lookup looked] at read
  rw [decimals_eq_ok (.ofIndexed listed) read]
  exact endAlike_token few

theorem endAlike_nodeToken
    {listed : Json}
    (few : (RawToken.ofNode listed).effectiveDecimals (inWholeUnits family) ≤
      Amount.decimalsCap) :
    EndAlike TokensDiffer
      ((inWholeUnits family).nodeToken listed)
      ((inSmallestUnits family).nodeToken listed) := by
  apply EndAlike.bind_same
  intro told looked
  rw [decimals_inSmallestUnits]
  apply EndAlike.bind_same
  intro decimals read
  apply EndAlike.bind_same
  intro mint there
  rw [← Json.getD_of_lookup looked] at read
  rw [decimals_eq_ok (.ofNode listed) read, ← Json.getD_of_member there]
  exact endAlike_token few

theorem endAlike_accountToken
    {account : TokenAccount}
    (few : (RawToken.ofAccount account).effectiveDecimals (inWholeUnits family) ≤
      Amount.decimalsCap) :
    EndAlike TokensDiffer
      ((inWholeUnits family).accountToken account)
      ((inSmallestUnits family).accountToken account) := by
  unfold accountToken
  dsimp only
  rw [decimals_inSmallestUnits]
  apply EndAlike.bind_same
  intro decimals read
  rcases decimals_eq_ok (.ofAccount account) read with rfl
  apply (endAlike_amount account.amount few).bind
  intro whole smallest converted
  apply EndAlike.bind_same
  intro symbol found
  apply EndAlike.bind_same
  intro metadata told
  apply EndAlike.bind_same
  intro mint accepted
  refine .ok ⟨rfl, rfl, ?_⟩
  rw [decimals_of_tokenMetadata told]
  exact converted

/-! ## Balances -/

/-- Balances of one payload, the first in whole units and the second in smallest ones. -/
structure BalancesDiffer
    (nativeDecimals : Int)
    (whole smallest : Balances) :
    Prop where
  native : IsInSmallestUnits nativeDecimals whole.native smallest.native
  tokens : List.Forall₂ TokensDiffer whole.tokens smallest.tokens
  nfts : whole.nfts = smallest.nfts

/--
Whatever a payload holds, it comes to balances in both units, which differ in the amounts alone,
or to one fault in both.
-/
theorem endAlike_balances
    (family : Family)
    (payload : Payload)
    (config : ChainConfig)
    (natural : 0 ≤ config.nativeDecimals)
    (fewNative : config.nativeDecimals ≤ Amount.decimalsCap)
    (few : ∀ raw ∈ payload.tokens,
      raw.effectiveDecimals (inWholeUnits family) ≤ Amount.decimalsCap) :
    EndAlike (BalancesDiffer config.nativeDecimals)
      ((inWholeUnits family).balances payload config)
      ((inSmallestUnits family).balances payload config) := by
  have amounts (given : Json) :
      EndAlike (IsInSmallestUnits config.nativeDecimals)
        ((inWholeUnits family).amount given config.nativeDecimals)
        ((inSmallestUnits family).amount given config.nativeDecimals) := by
    rcases Int.eq_ofNat_of_zero_le natural with ⟨places, same⟩
    rw [same] at fewNative ⊢
    exact endAlike_amount given (by omega)
  cases payload with
  | indexed native tokens nfts failed =>
      cases family with
      | solana =>
          exact .error _
      | evm =>
          apply (amounts native).bind
          intro wholeNative smallestNative nativeDiffers
          apply (EndAlike.mapM fun listed member =>
            endAlike_indexedToken (few _ (List.mem_map_of_mem member))).bind
          intro wholeTokens smallestTokens tokensDiffer
          apply EndAlike.bind_same
          intro rendered nftsRendered
          exact .ok ⟨nativeDiffers, tokensDiffer, rfl⟩
  | node native tokens nfts failed =>
      cases family with
      | solana =>
          exact .error _
      | evm =>
          apply (amounts native).bind
          intro wholeNative smallestNative nativeDiffers
          apply (EndAlike.mapM fun listed member =>
            endAlike_nodeToken (few _ (List.mem_map_of_mem member))).bind
          intro wholeTokens smallestTokens tokensDiffer
          apply EndAlike.bind_same
          intro rendered nftsRendered
          exact .ok ⟨nativeDiffers, tokensDiffer, rfl⟩
  | solana native accounts nfts failed =>
      cases family with
      | evm =>
          exact .error _
      | solana =>
          apply (EndAlike.mapM fun account member =>
            endAlike_accountToken (few _ (List.mem_map_of_mem member))).bind
          intro wholeTokens smallestTokens tokensDiffer
          apply (amounts native).bind
          intro wholeNative smallestNative nativeDiffers
          apply EndAlike.bind_same
          intro rendered nftsRendered
          exact .ok ⟨nativeDiffers, tokensDiffer, rfl⟩

/-- A payload with a token of three decimals, and one that tells neither amount nor decimals. -/
def mixedPayload : Payload :=
  .indexed (.text "0x14D1120D7B160000")
    [⟨.text "0xA", .text "1500", .object [("decimals", .int 3)]⟩,
      ⟨.text "0xB", .text "some", .null⟩] [] ["token_metadata"]

/-- The mixed payload comes to balances, in both units. -/
theorem endAlike_balances_mixed :
    ((inWholeUnits .evm).balances mixedPayload Chain.ethereum.config).toOption.isSome = true ∧
      EndAlike (BalancesDiffer 18)
        ((inWholeUnits .evm).balances mixedPayload Chain.ethereum.config)
        ((inSmallestUnits .evm).balances mixedPayload Chain.ethereum.config) :=
  ⟨by decide +kernel,
    endAlike_balances .evm mixedPayload Chain.ethereum.config (by decide) (by decide)
      (by decide)⟩

end Rendering

end Holdings
