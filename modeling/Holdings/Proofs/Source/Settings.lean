import Holdings.Chain.Table
import Holdings.Source

/-!
# The settings of a tier

The name of a setting is made of a service and a subject, which is a chain or a tier of a
chain.  Both can be read off the name, so settings of different services, and of different
tiers of a chain, never have one name.  Those of different chains could have: a chain may be
named like another one with a tier behind it.  In the table no chain is.
-/

namespace Holdings

/-! ## Names of settings -/

namespace Service

/-- What stands in front of the subject in the name of a setting. -/
def settingFront : Service → String
  | .alchemy => "ALCHEMY_API_KEY_"
  | .quicknode => "QUICKNODE_"
  | .rpc => "RPC_ENDPOINT_"

/-- What stands behind the subject in the name of a setting. -/
def settingBack : Service → String
  | .quicknode => "_URL"
  | _ => ""

/-- The name of the setting of a service for a subject. -/
def settingName
    (service : Service)
    (subject : String) :
    String :=
  service.settingFront ++ subject ++ service.settingBack

/-- The settings of a service that serve all chains. -/
def sharedSettings : Service → List String
  | .alchemy => ["ALCHEMY_API_KEY"]
  | _ => []

end Service

/-- A tier of a chain as the subject of a setting. -/
def Tier.subject
    (tier : Tier)
    (chain : String) :
    String :=
  chain ++ "_" ++ tier.keyName

/-- A source looks for the setting of the tier, then of the chain, then for one of all chains. -/
theorem Source.credentialKeys_eq
    (source : Source)
    (tier : Tier) :
    source.credentialKeys tier =
      source.service.settingName (tier.subject source.chain.keyName) ::
        source.service.settingName source.chain.keyName :: source.service.sharedSettings := by
  rcases source with ⟨service, chain⟩
  cases service <;>
    simp [credentialKeys, Service.settingName, Service.settingFront, Service.settingBack,
      Service.sharedSettings, Tier.subject, String.append_assoc, toString]

namespace Service

/-- Services are told apart by the first letter of their settings. -/
theorem eq_of_head?_settingFront
    {left right : Service}
    (same : left.settingFront.toList.head? = right.settingFront.toList.head?) :
    left = right := by
  revert same
  cases left <;> cases right <;> decide

theorem head?_settingName
    (service : Service)
    (subject : String) :
    (service.settingName subject).toList.head? = service.settingFront.toList.head? := by
  rw [settingName, String.append_assoc, String.toList_append, List.head?_append]
  cases service <;> rfl

/-- Service and subject can be read off the name of a setting. -/
theorem settingName_inj
    {left right : Service}
    {first second : String} :
    left.settingName first = right.settingName second ↔ left = right ∧ first = second := by
  constructor
  · intro same
    have heads := congrArg (fun name => name.toList.head?) same
    simp only [head?_settingName] at heads
    rcases eq_of_head?_settingFront heads with rfl
    rw [settingName, settingName, String.append_left_inj, String.append_right_inj] at same
    exact ⟨rfl, same⟩
  · rintro ⟨rfl, rfl⟩
    rfl

/-- A setting for a subject serves no other chains. -/
theorem settingName_not_mem_sharedSettings
    (service other : Service)
    (subject : String) :
    service.settingName subject ∉ other.sharedSettings := by
  intro member
  cases other with
  | alchemy =>
      have same := List.mem_singleton.1 member
      have heads := congrArg (fun name => name.toList.head?) same
      simp only [head?_settingName] at heads
      have isAlchemy : service = .alchemy := eq_of_head?_settingFront heads
      subst isAlchemy
      -- The front of the name is longer than the whole shared name.
      have lengths := congrArg String.length same
      simp only [settingName, String.length_append] at lengths
      have front : (settingFront .alchemy).length = "ALCHEMY_API_KEY".length + 1 := by
        decide
      omega
  | quicknode =>
      cases member
  | rpc =>
      cases member

end Service

/-! ## Tiers and chains -/

namespace Tier

theorem subject_inj
    {first second : Tier}
    {left right : String} :
    first.subject left = second.subject right ↔ left = right ∧ first = second := by
  constructor
  · intro same
    have sameLength : first.keyName.toList.length = second.keyName.toList.length := by
      cases first <;> cases second <;> rfl
    simp only [subject, ← String.toList_inj, String.toList_append] at same
    rcases List.append_inj' same sameLength with ⟨fronts, tiers⟩
    refine ⟨String.toList_inj.1 (List.append_cancel_right fronts), ?_⟩
    revert tiers
    cases first <;> cases second <;> decide
  · rintro ⟨rfl, rfl⟩
    rfl

theorem subject_ne
    (tier : Tier)
    (chain : String) :
    tier.subject chain ≠ chain := by
  intro same
  have lengths := congrArg String.length same
  simp only [subject, String.length_append] at lengths
  have dash : "_".length = 1 := rfl
  omega

end Tier

/-- A setting is for a tier of a chain. -/
def NamesTier
    (chain : String)
    (tier : Tier)
    (key : String) :
    Prop :=
  ∃ service : Service, key = service.settingName (tier.subject chain)

/-- A setting is for a chain, or for a tier of it. -/
def NamesChain
    (chain key : String) :
    Prop :=
  (∃ service : Service, key = service.settingName chain) ∨ ∃ tier, NamesTier chain tier key

/-- Two chains whose settings have different names: none is named like a tier of the other. -/
structure AreApart
    (left right : String) :
    Prop where
  ne : left ≠ right
  left_ne_subject : ∀ tier : Tier, left ≠ tier.subject right
  right_ne_subject : ∀ tier : Tier, right ≠ tier.subject left

/-- No chain of the table has a dash in its name, as there is before a tier. -/
theorem Chain.keyName_ne_subject
    (chain : ChainId)
    (tier : Tier)
    (other : String) :
    (Chain.ofId chain).keyName ≠ tier.subject other := by
  intro same
  have noDash : '_' ∉ (Chain.ofId chain).keyName.toList := by
    cases chain <;> decide
  apply noDash
  simp [same, Tier.subject]

/-- Different chains of the table have settings of different names. -/
theorem Chain.areApart_keyName
    {first second : ChainId}
    (different : first ≠ second) :
    AreApart (Chain.ofId first).keyName (Chain.ofId second).keyName := by
  constructor
  · revert different
    cases first <;> cases second <;> decide
  · intro tier
    exact keyName_ne_subject first tier _
  · intro tier
    exact keyName_ne_subject second tier _

namespace Source

variable {source : Source} {tier other : Tier} {key chain : String}

/-- A source looks at no setting for another tier of its chain. -/
theorem not_mem_credentialKeys_of_tier
    (different : other ≠ tier)
    (named : NamesTier source.chain.keyName other key) :
    key ∉ source.credentialKeys tier := by
  rcases named with ⟨service, rfl⟩
  rw [credentialKeys_eq, List.mem_cons, List.mem_cons, Service.settingName_inj,
    Service.settingName_inj, Tier.subject_inj]
  rintro (⟨-, -, same⟩ | ⟨-, same⟩ | shared)
  · exact different same
  · exact other.subject_ne _ same
  · exact Service.settingName_not_mem_sharedSettings _ _ _ shared

/-- A source looks at no setting for a chain that is apart from its own. -/
theorem not_mem_credentialKeys_of_chain
    (apart : AreApart source.chain.keyName chain)
    (named : NamesChain chain key) :
    key ∉ source.credentialKeys tier := by
  rw [credentialKeys_eq, List.mem_cons, List.mem_cons]
  rcases named with ⟨service, rfl⟩ | ⟨other, service, rfl⟩
  · rw [Service.settingName_inj, Service.settingName_inj]
    rintro (⟨-, same⟩ | ⟨-, same⟩ | shared)
    · exact apart.right_ne_subject tier same
    · exact apart.ne same.symm
    · exact Service.settingName_not_mem_sharedSettings _ _ _ shared
  · rw [Service.settingName_inj, Service.settingName_inj, Tier.subject_inj]
    rintro (⟨-, same, -⟩ | ⟨-, same⟩ | shared)
    · exact apart.ne same.symm
    · exact apart.left_ne_subject other same.symm
    · exact Service.settingName_not_mem_sharedSettings _ _ _ shared

end Source

end Holdings
