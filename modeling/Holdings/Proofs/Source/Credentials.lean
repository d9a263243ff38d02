import Holdings.Proofs.Source.Settings
import Mathlib.Data.List.TakeWhile

/-!
# Credentials of a source

The credential of a tier comes from the first of its settings that is neither absent nor blank,
without the blanks around it.  Where no setting is made, a bare node has the public endpoint of
the chain.  Settings that differ in blanks only give the same credentials.
-/

namespace Holdings

/-- What is found first depends on what is found at each entry only. -/
theorem findSome?_congr
    {α β : Type}
    {find other : α → Option β}
    {entries : List α}
    (same : ∀ entry ∈ entries, find entry = other entry) :
    entries.findSome? find = entries.findSome? other := by
  induction entries with
  | nil =>
      rfl
  | cons first rest ih =>
      rw [List.findSome?_cons, List.findSome?_cons, same first List.mem_cons_self,
        ih fun entry member => same entry (List.mem_cons_of_mem first member)]

namespace Text

/-- Nothing is left of a text without its blanks just when it holds nothing else. -/
theorem stripEnds_eq_nil_iff
    {inClass : Char → Bool}
    {characters : List Char} :
    stripEnds inClass characters = [] ↔ ∀ character ∈ characters, inClass character = true := by
  rw [stripEnds, List.reverse_eq_nil_iff, List.dropWhile_eq_nil_iff]
  constructor
  · intro inside
    rw [← List.dropWhile_eq_nil_iff]
    -- The first character that is kept would have to be in the class.
    cases remains : characters.dropWhile inClass with
    | nil =>
        rfl
    | cons first rest =>
        have outside := characters.head?_dropWhile_not inClass
        rw [remains] at inside outside
        have within := inside first (by simp)
        simp [within] at outside
  · intro inside character member
    rw [List.dropWhile_eq_nil_iff.2 inside] at member
    cases member

theorem trim_eq_empty_iff
    {text : String} :
    trim text = "" ↔ isBlankText text = true := by
  rw [← String.toList_inj, toList_trim, trimList, String.toList_empty, stripEnds_eq_nil_iff,
    isBlankText, List.all_eq_true]

end Text

/-! ## Settings that are made -/

namespace Settings

variable {settings left right : Settings} {key value credential : String}

/-- A setting is absent or blank. -/
def IsUnset
    (settings : Settings)
    (key : String) :
    Prop :=
  ∀ value, settings.get? key = some value → Text.isBlankText value = true

/-- A setting holds a credential, with any blanks around it. -/
inductive Holds
    (settings : Settings)
    (key : String) :
    String → Prop where
  | trimmed
      {value : String}
      (present : settings.get? key = some value)
      (notBlank : Text.isBlankText value = false) :
      Holds settings key (Text.trim value)

theorem credential?_eq_none_iff :
    settings.credential? key = none ↔ settings.IsUnset key := by
  rw [credential?, Option.bind_eq_none_iff]
  constructor
  · intro nothing value present
    have skipped := nothing value present
    split at skipped
    · next blank =>
        exact blank
    · cases skipped
  · intro unset value present
    rw [if_pos (unset value present)]

theorem credential?_eq_some_iff :
    settings.credential? key = some credential ↔ settings.Holds key credential := by
  rw [credential?, Option.bind_eq_some_iff]
  constructor
  · rintro ⟨value, present, kept⟩
    split at kept
    · cases kept
    · next notBlank =>
        cases kept
        exact .trimmed present (Bool.eq_false_iff.2 notBlank)
  · rintro ⟨present, notBlank⟩
    exact ⟨_, present, if_neg (Bool.eq_false_iff.1 notBlank)⟩

/--
Two processes agree at a setting: neither has made it, a blank one counting as absent, or both
have, with the same text but for the blanks around it.
-/
inductive AgreeAt
    (left right : Settings)
    (key : String) :
    Prop where
  | unset
      (leftUnset : left.IsUnset key)
      (rightUnset : right.IsUnset key)
  | same
      {first second : String}
      (leftPresent : left.get? key = some first)
      (rightPresent : right.get? key = some second)
      (alike : Text.trim first = Text.trim second)

theorem AgreeAt.of_eq
    (same : left.get? key = right.get? key) :
    left.AgreeAt right key := by
  cases present : right.get? key with
  | none =>
      have nothing (settings : Settings) (absent : settings.get? key = none) :
          settings.IsUnset key := by
        intro value made
        rw [absent] at made
        cases made
      exact .unset (nothing left (same.trans present)) (nothing right present)
  | some value =>
      exact .same (same.trans present) present rfl

theorem AgreeAt.credential?_eq
    (agree : left.AgreeAt right key) :
    left.credential? key = right.credential? key := by
  cases agree with
  | unset leftUnset rightUnset =>
      rw [credential?_eq_none_iff.2 leftUnset, credential?_eq_none_iff.2 rightUnset]
  | @same first second leftPresent rightPresent alike =>
      have blanks : Text.isBlankText first = Text.isBlankText second := by
        rw [Bool.eq_iff_iff, ← Text.trim_eq_empty_iff, ← Text.trim_eq_empty_iff, alike]
      simp only [credential?, leftPresent, rightPresent, Option.bind_some, blanks, alike]

end Settings

/-! ## Credentials -/

namespace Source

variable {source : Source} {settings left right : Settings} {tier : Tier} {credential : String}

/--
The credential of a tier: what the first of its settings that is made holds, or the endpoint of
the chain when none is made.
-/
inductive Resolves
    (source : Source)
    (settings : Settings)
    (tier : Tier) :
    String → Prop where
  | setting
      {before after : List String}
      {key credential : String}
      (keys : source.credentialKeys tier = before ++ key :: after)
      (passed : ∀ earlier ∈ before, settings.IsUnset earlier)
      (holds : settings.Holds key credential) :
      Resolves source settings tier credential
  | endpoint
      {url : String}
      (unset : ∀ key ∈ source.credentialKeys tier, settings.IsUnset key)
      (bare : source.service = .rpc)
      (listed : source.chain.defaultEndpoints.lookup tier = some url) :
      Resolves source settings tier url

/-- A source serves a tier with a credential that is not empty. -/
structure Offers
    (source : Source)
    (settings : Settings)
    (tier : Tier)
    (credential : String) :
    Prop where
  serves : source.service = .alchemy →
    ∃ network, source.chain.alias? .alchemy tier = some network ∧ network ≠ ""
  resolves : source.Resolves settings tier credential
  ne_empty : credential ≠ ""

theorem defaultCredential_eq_some_iff :
    source.defaultCredential tier = some credential ↔
      source.service = .rpc ∧ source.chain.defaultEndpoints.lookup tier = some credential := by
  rcases source with ⟨service, chain⟩
  cases service <;> simp [defaultCredential]

theorem credential_eq_some_iff :
    source.credential settings tier = some credential ↔
      source.Resolves settings tier credential := by
  rw [Source.credential, Option.or_eq_some_iff, List.findSome?_eq_some_iff,
    List.findSome?_eq_none_iff, defaultCredential_eq_some_iff]
  simp only [Settings.credential?_eq_none_iff, Settings.credential?_eq_some_iff]
  constructor
  · rintro (⟨before, key, after, keys, holds, passed⟩ | ⟨unset, bare, listed⟩)
    · exact .setting keys passed holds
    · exact .endpoint unset bare listed
  · rintro (⟨keys, passed, holds⟩ | ⟨unset, bare, listed⟩)
    · exact .inl ⟨_, _, _, keys, holds, passed⟩
    · exact .inr ⟨unset, bare, listed⟩

/-- The network of a tier is the alias that its service knows it by, unless that is empty. -/
theorem network?_eq_some_iff
    {network : String} :
    source.network? tier = some network ↔
      source.chain.alias? .alchemy tier = some network ∧ network ≠ "" := by
  rw [network?, Option.filter_eq_some_iff, decide_eq_true_iff]

theorem serves_iff :
    source.serves tier = true ↔
      (source.service = .alchemy →
        ∃ network, source.chain.alias? .alchemy tier = some network ∧ network ≠ "") := by
  simp only [← network?_eq_some_iff, ← Option.isSome_iff_exists]
  rcases source with ⟨service, chain⟩
  cases service <;> simp [serves]

/-- Settings that agree where a source looks give it the same credential. -/
theorem credential_congr
    (agree : ∀ key ∈ source.credentialKeys tier, left.AgreeAt right key) :
    source.credential left tier = source.credential right tier := by
  rw [Source.credential, Source.credential,
    findSome?_congr fun key member => (agree key member).credential?_eq]

end Source

end Holdings
