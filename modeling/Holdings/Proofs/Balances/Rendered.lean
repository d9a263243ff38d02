import Holdings.Proofs.Balances.Units
import Holdings.Proofs.Balances.WellFormed

/-!
# Which balances are rendered

A balance is rendered from two values of a source, an amount and its decimals, and either of them
may be anything.  Decimals that make no sense are those of the family, and an amount that makes
no sense, or is too long for a text, is zero.  So a balance ought to be rendered in any case.

Three extremes break this.  An infinite number is not taken for decimals, decimals may ask for a
working precision that no machine word holds, and an integer that is too long to be printed
cannot be named in the report that it is no amount.  In all other cases a balance is rendered.
-/

namespace Holdings

namespace Rendering

open Holdings.Text
open Amount

/--
The decimals of a token are read, or those of the family in their place, and its balance is a
plain number that is the text for it.
-/
def RendersBalance
    (rendering : Rendering)
    (raw : RawToken) :
    Prop :=
  rendering.decimals raw.decimals = .ok (raw.effectiveDecimals rendering) ∧
    ∃ text,
      rendering.amount raw.amount (raw.effectiveDecimals rendering) = .ok text ∧
        IsAmountText rendering.convertUnits text ∧
          IsTextOf raw.amount (rendering.pointPlaces (raw.effectiveDecimals rendering)) text

/-- A token that tells nothing extreme. -/
structure IsBounded
    (rendering : Rendering)
    (raw : RawToken) :
    Prop where
  finite : ∀ negative, raw.decimals ≠ .double (.infinite negative)
  showable : raw.amount.isShowable = true
  fits : ∀ amount,
    Amount.read raw.amount = .ok amount →
      ¬ Outgrows amount (rendering.pointPlaces (raw.effectiveDecimals rendering))

variable {rendering : Rendering} {raw : RawToken}

/-- Everything but an infinite number is taken for decimals. -/
theorem decimals_of_finite
    (rendering : Rendering)
    (finite : ∀ negative, raw.decimals ≠ .double (.infinite negative)) :
    rendering.decimals raw.decimals = .ok (raw.effectiveDecimals rendering) := by
  have read : ∃ places, rendering.decimals raw.decimals = .ok places := by
    cases told : raw.decimals with
    | double value =>
        cases value with
        | infinite negative =>
            exact absurd told (finite negative)
        | nan | finite =>
            exact ⟨_, rfl⟩
    | text written =>
        rw [decimals]
        cases readInteger written with
        | none =>
            exact ⟨_, rfl⟩
        | some value =>
            exact ⟨_, rfl⟩
    | null | bool | int | array | object =>
        exact ⟨_, rfl⟩
  rcases read with ⟨places, read⟩
  rw [read, decimals_eq_ok raw read]

theorem rendersBalance_of_isBounded
    (bounded : rendering.IsBounded raw) :
    rendering.RendersBalance raw := by
  have told := decimals_of_finite rendering bounded.finite
  have ends := writesTo_convert rendering raw.amount (raw.effectiveDecimals rendering)
  generalize converted :
    rendering.convert raw.amount (raw.effectiveDecimals rendering) = outcome at ends
  cases ends with
  | written readable writable =>
      exact ⟨told, _, amount_of_convert converted, isAmountText_convert converted,
        isTextOf_of_isWritable readable writable⟩
  | refused isValue unwritable fits =>
      have rendered := (amount_of_refused converted).2 ⟨rfl, isValue, bounded.showable⟩
      exact ⟨told, _, rendered, isAmountText_zero _, isTextOf_zero unwritable⟩
  | outgrown readable outgrows =>
      exact absurd outgrows (bounded.fits _ readable)

theorem isBounded_of_rendersBalance
    (renders : rendering.RendersBalance raw) :
    rendering.IsBounded raw := by
  rcases renders with ⟨told, text, rendered, -, -⟩
  have finite : ∀ negative, raw.decimals ≠ .double (.infinite negative) := by
    intro negative infinite
    rw [infinite] at told
    cases told
  have ends := writesTo_convert rendering raw.amount (raw.effectiveDecimals rendering)
  generalize converted :
    rendering.convert raw.amount (raw.effectiveDecimals rendering) = outcome at ends
  cases ends with
  | written readable writable =>
      refine ⟨finite, isShowable_of_read readable writable.1, ?_⟩
      intro other otherReadable
      cases readable.symm.trans otherReadable
      exact not_outgrows writable
  | refused isValue unwritable fits =>
      exact ⟨finite, ((amount_of_refused converted).1 rendered).2.2, fits⟩
  | outgrown readable outgrows =>
      cases ((amount_of_refused converted).1 rendered).2.1

/--
A balance is rendered exactly when its decimals are no infinite number, its amount can be named
and the precision to divide it in is a machine word.
-/
theorem rendersBalance_iff
    (rendering : Rendering)
    (raw : RawToken) :
    rendering.RendersBalance raw ↔ rendering.IsBounded raw :=
  ⟨isBounded_of_rendersBalance, rendersBalance_of_isBounded⟩

/-- Infinite decimals, more decimals than a word counts, and an amount that cannot be named. -/
theorem not_rendersBalance_extreme :
    ¬ (inWholeUnits .evm).RendersBalance ⟨.null, .text "1", .double (.infinite false)⟩ ∧
      ¬ (inWholeUnits .evm).RendersBalance ⟨.null, .text "1", .int (10 ^ 20)⟩ ∧
        ¬ (inWholeUnits .evm).RendersBalance ⟨.null, .int (10 ^ 4300), .int 18⟩ := by
  refine ⟨?_, ?_, ?_⟩
  · intro renders
    exact (isBounded_of_rendersBalance renders).finite false rfl
  · intro renders
    have outgrows : Outgrows 1 (10 ^ 20) :=
      ⟨by decide, Nat.one_lt_pow (by decide) (by decide), by decide⟩
    exact (isBounded_of_rendersBalance renders).fits 1 rfl outgrows
  · intro renders
    have showable := (isBounded_of_rendersBalance renders).showable
    have notShowable : (Json.int (10 ^ 4300)).isShowable = false := by
      decide +kernel
    exact Bool.false_ne_true (notShowable.symm.trans showable)

end Rendering

end Holdings
