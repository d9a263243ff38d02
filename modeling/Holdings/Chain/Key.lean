import Holdings.Chain.Table
import Holdings.Fault
import Holdings.Text.Blank
import Holdings.Text.Lowercase

/-!
# How a chain is asked for

A caller names a chain by a member of the table or by any value, which is
printed first.  Blanks around the spelling and the case of its letters do not
matter.
-/

namespace Holdings

/-- What a caller names a chain by. -/
inductive ChainKey where
  | member (chain : ChainId)
  | spelled (given : Json)
deriving Inhabited

namespace ChainKey

/-- The key as messages show it. -/
def shown : ChainKey → String
  | .member chain => "ChainIdentifier." ++ chain.name.toUpper
  | .spelled given => given.shown

/-- The trimmed and lower-cased spelling, under which a chain is known. -/
def name : ChainKey → Except Fault String
  | .member chain => .ok chain.name
  | .spelled given =>
    if given.isShowable then
      .ok (Text.lowercase (Text.trim given.shown))
    else
      .error .digitLimit

/-- The chain that is meant. -/
def identify
    (key : ChainKey) :
    Except Fault ChainId := do
  match key with
  | .member chain => return chain
  | .spelled _ =>
    let name ← key.name
    match ChainId.ofName? name with
    | some chain => return chain
    | none => throw (.noImplementation key.shown)

@[simp]
theorem identify_member
    (chain : ChainId) :
    (member chain).identify = .ok chain :=
  rfl

end ChainKey

/-- The tier that a value names. -/
def Tier.read
    (given : Json) :
    Except Fault Tier :=
  match given with
  | .text written =>
    match Tier.ofName? written with
    | some tier => .ok tier
    | none => .error (.unknownTier given)
  | _ => .error (Fault.naming given (.unknownTier given))

@[simp]
theorem Tier.read_name
    (tier : Tier) :
    Tier.read (.text tier.name) = .ok tier := by
  simp [Tier.read]

end Holdings
