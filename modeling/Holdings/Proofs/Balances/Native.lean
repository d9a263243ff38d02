import Holdings.Balances.Rendering
import Holdings.Chain.Table
import Holdings.Proofs.Amount.Writing

/-!
# Native balances

A native balance is a text that a source gave, or missing.  With the decimals of
any chain of the table it is always rendered: a valid amount as this amount and
everything else as zero.
-/

namespace Holdings

/-! ## Rendering -/

/-- Decimals that no chain of the table exceeds. -/
def IsModerate
    (decimals : Int) :
    Prop :=
  0 ≤ decimals ∧ decimals ≤ 18

theorem Chain.isModerate_nativeDecimals
    (chain : ChainId) :
    IsModerate (Chain.ofId chain).config.nativeDecimals := by
  unfold IsModerate
  cases chain <;> decide

namespace Rendering

open Amount

/-- The places by which the point moves in an amount; it stays when units are not converted. -/
def pointPlaces
    (rendering : Rendering)
    (places : Nat) :
    Nat :=
  if rendering.convertUnits then places else 0

/-- However an amount is given, its conversion ends in one of the ways. -/
theorem writesTo_convert
    (rendering : Rendering)
    (given : Json)
    (places : Nat) :
    WritesTo given (rendering.pointPlaces places) (rendering.convert given places) := by
  unfold convert pointPlaces
  by_cases converts : rendering.convertUnits = true
  · rw [if_pos converts, if_pos converts]
    exact writesTo_normalize given places
  · rw [if_neg converts, if_neg converts]
    exact writesTo_print given

variable {rendering : Rendering} {decimals : Int}

/-- With moderate decimals, an amount that can be printed can be written. -/
theorem isWritable_of_isModerate
    (rendering : Rendering)
    {amount places : Nat}
    (moderate : IsModerate places)
    (printable : amount < 10 ^ Text.numeralLimit) :
    IsWritable amount (rendering.pointPlaces places) := by
  have fewer : rendering.pointPlaces places ≤ places := by
    unfold pointPlaces
    split
    · exact le_rfl
    · exact Nat.zero_le places
  have few := moderate.2
  refine ⟨printable, .inr (isPrecise_of_lt printable ?_)⟩
  unfold precisionCap Text.numeralLimit
  omega

theorem kind_of_convert
    {given : Json}
    {fault : Fault}
    (moderate : IsModerate decimals)
    (refused : rendering.convert given decimals = .error fault) :
    fault.kind = .value := by
  rcases Int.eq_ofNat_of_zero_le moderate.1 with ⟨places, rfl⟩
  have ends := writesTo_convert rendering given places
  rw [refused] at ends
  cases ends with
  | refused isValue =>
      exact isValue
  | outgrown readable outgrows =>
      have writable := isWritable_of_isModerate rendering moderate outgrows.2.1
      exact absurd outgrows (not_outgrows writable)

/-- What is given matters only by the amount that is read from it. -/
theorem convert_congr
    {left right : Json}
    (same : Amount.read left = Amount.read right) :
    rendering.convert left decimals = rendering.convert right decimals := by
  unfold convert Amount.normalize
  rw [same]

theorem exists_convert
    {given : Json}
    {amount : Nat}
    (moderate : IsModerate decimals)
    (readable : Amount.read given = .ok amount)
    (printable : amount < 10 ^ Text.numeralLimit) :
    ∃ text, rendering.convert given decimals = .ok text := by
  rcases Int.eq_ofNat_of_zero_le moderate.1 with ⟨places, rfl⟩
  have writable := isWritable_of_isModerate rendering moderate printable
  have ends := writesTo_convert rendering given places
  generalize rendering.convert given places = outcome at ends
  cases ends with
  | written =>
      exact ⟨_, rfl⟩
  | refused isValue unwritable =>
      exact absurd writable (unwritable amount readable)
  | outgrown otherReadable outgrows =>
      cases readable.symm.trans otherReadable
      exact absurd outgrows (not_outgrows writable)

theorem amount_of_convert
    {given : Json}
    {text : String}
    (converted : rendering.convert given decimals = .ok text) :
    rendering.amount given decimals = .ok text := by
  rw [amount, converted]

/-- A refused conversion has a text if the fault is one of values and what is given can be named. -/
theorem amount_of_refused
    {given : Json}
    {places : Int}
    {fault : Fault}
    {text : String}
    (refused : rendering.convert given places = .error fault) :
    rendering.amount given places = .ok text ↔
      text = "0" ∧ fault.kind = .value ∧ given.isShowable = true := by
  rw [amount, refused]
  by_cases isValue : fault.kind = .value
  · by_cases showable : given.isShowable = true
    · simp [isValue, showable, eq_comm]
    · simp [isValue, showable]
  · simp [isValue]

/-- The text of a native balance; a balance that is not known is zero. -/
def nativeText
    (rendering : Rendering)
    (config : ChainConfig)
    (native : Option String) :
    String :=
  (rendering.amount (Json.ofText? native) config.nativeDecimals).toOption.getD "0"

/-- A native balance is always rendered. -/
theorem amount_native
    {config : ChainConfig}
    (moderate : IsModerate config.nativeDecimals)
    (native : Option String) :
    rendering.amount (Json.ofText? native) config.nativeDecimals =
      .ok (rendering.nativeText config native) := by
  have showable : (Json.ofText? native).isShowable = true := by
    cases native <;> rfl
  have rendered : ∃ text,
      rendering.amount (Json.ofText? native) config.nativeDecimals = .ok text := by
    cases converted : rendering.convert (Json.ofText? native) config.nativeDecimals with
    | ok text =>
        exact ⟨text, amount_of_convert converted⟩
    | error fault =>
        have isValue := kind_of_convert moderate converted
        exact ⟨"0", (amount_of_refused converted).2 ⟨rfl, isValue, showable⟩⟩
  rcases rendered with ⟨text, rendered⟩
  rw [nativeText, rendered]
  rfl

theorem nativeText_none
    {config : ChainConfig}
    (moderate : IsModerate config.nativeDecimals) :
    rendering.nativeText config none = "0" := by
  have readable : Amount.read .null = .ok 0 := Amount.read_null
  have zero : rendering.convert .null config.nativeDecimals = .ok "0" := by
    unfold convert
    split
    · rcases Int.eq_ofNat_of_zero_le moderate.1 with ⟨places, samePlaces⟩
      rw [samePlaces]
      rfl
    · have printable : 0 < 10 ^ Text.numeralLimit := by
        positivity
      simp only [readable, bind, Except.bind, Amount.print, Nat.pow_eq, if_pos printable]
      rfl
  rw [nativeText]
  exact congrArg (fun outcome => outcome.toOption.getD "0") (amount_of_convert zero)

/-- A text that is a valid amount is rendered as this amount. -/
theorem nativeText_of_read
    {config : ChainConfig}
    {written : String}
    {amount : Nat}
    (moderate : IsModerate config.nativeDecimals)
    (readable : Amount.read (.text written) = .ok amount)
    (printable : amount < 10 ^ Text.numeralLimit) :
    rendering.amount (.int amount) config.nativeDecimals =
      .ok (rendering.nativeText config (some written)) := by
  obtain ⟨text, converted⟩ :
      ∃ text, rendering.convert (.text written) config.nativeDecimals = .ok text :=
    exists_convert moderate readable printable
  have sameAmount : Amount.read (.text written) = Amount.read (.int amount) := by
    rw [readable, Amount.read_natural]
  have native := amount_of_convert converted
  have integer := amount_of_convert ((convert_congr sameAmount).symm.trans converted)
  rw [integer, nativeText]
  exact congrArg (fun outcome => Except.ok (outcome.toOption.getD "0")) native.symm

end Rendering

end Holdings
