import Holdings.Chain.Basic
import Holdings.Fault
import Holdings.Text.Blank

/-!
# Data sources

A data source is a service as it serves one chain.  It knows under which
settings its credential for a tier is kept, the most specific first, and how
the credential becomes the address of an endpoint.  A blank setting counts as
missing, and blanks around a credential do not belong to it.
-/

namespace Holdings

/-- The settings of a process: texts under names. -/
structure Settings where
  entries : List (String × String)
deriving Inhabited, Repr, DecidableEq

namespace Settings

/-- The text of a setting. -/
def get?
    (settings : Settings)
    (key : String) :
    Option String :=
  settings.entries.lookup key

/-- The number of settings. -/
def size
    (settings : Settings) :
    Nat :=
  settings.entries.length

/-- The names of the settings in alphabetical order. -/
def keys
    (settings : Settings) :
    List String :=
  (settings.entries.map (·.1)).mergeSort fun left right => Text.inOrder left right

/-- The trimmed text of a setting that is not blank. -/
def credential?
    (settings : Settings)
    (key : String) :
    Option String :=
  (settings.get? key).bind fun value =>
    if Text.isBlankText value then none else some (Text.trim value)

end Settings

/-- A service as it serves one chain. -/
structure Source where
  service : Service
  chain : Chain
deriving Inhabited, Repr, DecidableEq

namespace Source

/-- The name of a source. -/
def name
    (source : Source) :
    String :=
  source.service.sourceName

/-- The settings that may hold the credential of a tier, the most specific first. -/
def credentialKeys
    (source : Source)
    (tier : Tier) :
    List String :=
  let chain := source.chain.keyName
  match source.service with
  | .alchemy =>
    [s!"ALCHEMY_API_KEY_{chain}_{tier.keyName}", s!"ALCHEMY_API_KEY_{chain}",
      "ALCHEMY_API_KEY"]
  | .quicknode => [s!"QUICKNODE_{chain}_{tier.keyName}_URL", s!"QUICKNODE_{chain}_URL"]
  | .rpc => [s!"RPC_ENDPOINT_{chain}_{tier.keyName}", s!"RPC_ENDPOINT_{chain}"]

/-- The name by which Alchemy knows a network of the chain, if it does. -/
def network?
    (source : Source)
    (tier : Tier) :
    Option String :=
  (source.chain.alias? .alchemy tier).filter (· ≠ "")

/-- The name by which Alchemy knows a network of the chain. -/
def network
    (source : Source)
    (tier : Tier) :
    Except Fault String :=
  match source.network? tier with
  | some network => .ok network
  | none => .error (.noNetwork source.chain.id tier)

/-- Whether the source serves a tier at all. -/
def serves
    (source : Source)
    (tier : Tier) :
    Bool :=
  match source.service with
  | .alchemy => (source.network? tier).isSome
  | _ => true

/-- The credential of a tier for which no setting is made. -/
def defaultCredential
    (source : Source)
    (tier : Tier) :
    Option String :=
  match source.service with
  | .rpc => source.chain.defaultEndpoints.lookup tier
  | _ => none

/-- The credential of a tier: the first setting that is not blank, else the default. -/
def credential
    (source : Source)
    (settings : Settings)
    (tier : Tier) :
    Option String :=
  ((source.credentialKeys tier).findSome? settings.credential?).or
    (source.defaultCredential tier)

/-- The address of the endpoint that a credential opens. -/
def baseUrl
    (source : Source)
    (tier : Tier)
    (credential : String) :
    Except Fault String :=
  match source.service with
  | .alchemy => do
    return s!"https://{← source.network tier}.g.alchemy.com/v2/{credential}"
  | _ => .ok credential

end Source

end Holdings
