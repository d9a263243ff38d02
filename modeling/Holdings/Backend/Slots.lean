import Holdings.Network.Basic

/-!
# Independent parts of one question

The balances of a wallet are asked for in parts: the native balance, the tokens
and the non-fungible tokens.  A part that fails does not stop the others.  It is
recorded as an event, its value is missing, and its name is kept.  So is a look-up of
what is told about a token.  The error of a slot is wrapped in another one before it
is recorded, and the error of a look-up is recorded as it is.
-/

namespace Holdings.Backend

variable {α β γ : Type}

/-- The error that stands for a part that failed: its text is what is recorded of its error. -/
def partialError
    (error : Wording) :
    Wording :=
  ⟨error.summary, "PartialDataError", by decide⟩

/-- The event of a part that failed while balances were asked for, with an error. -/
def warning
    (chain : ChainId)
    (tier : Tier)
    (part : String)
    (fault : Fault)
    (error : Wording → Wording) :
    Event :=
  .ofError .warning chain (.text tier.name) ("get_balances." ++ part) fault error

/-- The event of a look-up that failed. -/
def partEvent
    (chain : ChainId)
    (tier : Tier)
    (part : String)
    (fault : Fault) :
    Event :=
  warning chain tier part fault fault.told

/-- The event of a slot that failed; its error is wrapped before it is recorded. -/
def slotEvent
    (chain : ChainId)
    (tier : Tier)
    (slot : String)
    (fault : Fault) :
    Event :=
  warning chain tier slot fault fun foreign => partialError (fault.told foreign)

/-- Records the failure of a part, if it failed, and gives its value, if it has one. -/
def settle
    (event : Fault → Event)
    (outcome : Except Fault α) :
    Fetch (Option α) :=
  match outcome with
  | .ok value => return some value
  | .error fault => do
    Fetch.record (event fault)
    return none

/-- The three parts of the balances of a wallet, as far as they could be fetched. -/
structure Slots (α β γ : Type) where
  native : Option α
  tokens : Option β
  nfts : Option γ
deriving Repr

/-- The names of the parts that are missing, in order. -/
def Slots.failed
    (slots : Slots α β γ) :
    List String :=
  (if slots.native.isNone then ["native"] else []) ++
    (if slots.tokens.isNone then ["tokens"] else []) ++
    (if slots.nfts.isNone then ["nfts"] else [])

/-- Fetches the three parts; failures are recorded when all parts have ended. -/
def fetchSlots
    (chain : ChainId)
    (tier : Tier)
    (native : Fetch α)
    (tokens : Fetch β)
    (nfts : Fetch γ) :
    Fetch (Slots α β γ) := do
  let native ← native.attempt
  let tokens ← tokens.attempt
  let nfts ← nfts.attempt
  let native ← settle (slotEvent chain tier "native") native
  let tokens ← settle (slotEvent chain tier "tokens") tokens
  let nfts ← settle (slotEvent chain tier "nfts") nfts
  return { native, tokens, nfts }

/-- The outcomes of a list of look-ups, one after the other. -/
def attemptEach
    (lookup : α → Fetch β) :
    List α → Fetch (List (Except Fault β))
  | [] => return []
  | item :: rest => do
    let outcome ← (lookup item).attempt
    let outcomes ← attemptEach lookup rest
    return outcome :: outcomes

/-- Records the failures among outcomes and gives the values, in order. -/
def settleEach
    (event : Fault → Event) :
    List (Except Fault β) → Fetch (List (Option β))
  | [] => return []
  | outcome :: rest => do
    let value ← settle event outcome
    let values ← settleEach event rest
    return value :: values

/-- The name of the part that looks up what is told about tokens. -/
def metadataPart : String := "token_metadata"

/-- Looks up something about each item; failures are recorded when all have ended. -/
def fetchEach
    (chain : ChainId)
    (tier : Tier)
    (lookup : α → Fetch β)
    (items : List α) :
    Fetch (List (Option β)) := do
  let outcomes ← attemptEach lookup items
  settleEach (partEvent chain tier metadataPart) outcomes

/-- The names of the failed parts, the look-ups included. -/
def withMetadataPart
    (failed : List String)
    (values : List (Option β)) :
    List String :=
  if values.any Option.isNone then failed ++ [metadataPart] else failed

end Holdings.Backend
