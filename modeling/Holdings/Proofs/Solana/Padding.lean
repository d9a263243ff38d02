import Holdings.Backend.SolanaNode
import Holdings.Balances.Rendering
import Holdings.Proofs.Solana.Extent
import Holdings.Proofs.Solana.Wallet

/-!
# Padding around the texts of an account

The characters that pad a text are NUL characters and blanks.  NUL characters are
dropped from both ends of a text first and blanks afterwards, each only once.  A
NUL character that stands behind blanks is thereby missed, if something other than
NUL characters follows it: the blanks hide it until they are dropped, and then it
is at the end.  These are the only texts that keep padding.
-/

namespace Holdings.Solana

open Text Backend SolanaNode

namespace Metadata

/-! ## Hidden NUL characters -/

/-- Behind NUL characters, if any, blanks hide another one, and not only such follow. -/
structure HidesNul
    (front blanks rest : List Char) :
    Prop where
  nul : ∀ character ∈ front, character = '\x00'
  nonempty : blanks ≠ []
  blank : ∀ character ∈ blanks, isBlank character = true
  more : ∃ character ∈ rest, character ≠ '\x00'

/-- Whether blanks hide a NUL character at the front of a text. -/
def HasHiddenNul
    (characters : List Char) :
    Prop :=
  ∃ front blanks rest,
    characters = front ++ blanks ++ '\x00' :: rest ∧ HidesNul front blanks rest

theorem isBlank_nul :
    isBlank '\x00' = false := by
  decide

/-- The last character that is no NUL character ends what is left when these are dropped. -/
theorem exists_last_of_mem
    {characters : List Char}
    (more : ∃ character ∈ characters, character ≠ '\x00') :
    ∃ kept last behind,
      characters = kept ++ last :: behind ∧ last ≠ '\x00' ∧
        ∀ character ∈ behind, character = '\x00' := by
  induction characters with
  | nil =>
      rcases more with ⟨character, member, -⟩
      cases member
  | cons first rest induction =>
      by_cases later : ∃ character ∈ rest, character ≠ '\x00'
      · rcases induction later with ⟨kept, last, behind, rfl, other, nul⟩
        exact ⟨first :: kept, last, behind, rfl, other, nul⟩
      · have nul : ∀ character ∈ rest, character = '\x00' := by
          simpa using later
        rcases more with ⟨character, member, other⟩
        rcases List.mem_cons.1 member with rfl | inRest
        · exact ⟨[], character, rest, rfl, other, nul⟩
        · exact absurd (nul character inRest) other

/-- Dropping NUL characters ends at the blanks, and dropping these uncovers what they hid. -/
theorem head?_stripPadding_of_hasHiddenNul
    {characters : List Char}
    (hidden : HasHiddenNul characters) :
    (stripPadding characters).head? = some '\x00' := by
  rcases hidden with ⟨front, blanks, rest, rfl, hides⟩
  rcases exists_last_of_mem hides.more with ⟨kept, last, behind, rfl, other, nulBehind⟩
  have bare : HasBareEnds (· = '\x00') (blanks ++ '\x00' :: (kept ++ [last])) := by
    constructor
    · intro character first
      rw [List.head?_append_of_ne_nil _ hides.nonempty] at first
      have blank := hides.blank character (List.mem_of_mem_head? first)
      rw [decide_eq_false_iff_not]
      rintro rfl
      rw [isBlank_nul] at blank
      cases blank
    · intro character atEnd
      rw [← List.cons_append, ← List.append_assoc, List.getLast?_concat] at atEnd
      cases atEnd
      simpa using other
  have stripped :
      stripEnds (· = '\x00') (front ++ blanks ++ '\x00' :: (kept ++ last :: behind)) =
        blanks ++ '\x00' :: (kept ++ [last]) := by
    have split : front ++ blanks ++ '\x00' :: (kept ++ last :: behind) =
        front ++ (blanks ++ '\x00' :: (kept ++ [last])) ++ behind := by
      simp only [List.append_assoc, List.cons_append, List.nil_append]
    rw [split]
    apply bare.stripEnds_surrounded
    · simpa using hides.nul
    · simpa using nulBehind
  rw [stripPadding, stripped, trimList]
  exact head?_stripEnds_append_cons hides.blank isBlank_nul _

theorem hasHiddenNul_of_head?
    {characters : List Char}
    (first : (stripPadding characters).head? = some '\x00') :
    HasHiddenNul characters := by
  unfold stripPadding trimList at first
  have bare := hasBareEnds_stripEnds (· = '\x00') characters
  rcases exists_stripEnds_split (· = '\x00') characters with
    ⟨front, back, split, nulFront, nulBack⟩
  generalize stripEnds (· = '\x00') characters = stripped at first bare split
  rcases exists_stripEnds_split isBlank stripped with ⟨blanks, after, inner, blank, -⟩
  rcases List.head?_eq_some_iff.1 first with ⟨kept, left⟩
  rw [left, List.append_assoc, List.cons_append] at inner
  refine ⟨front, blanks, kept ++ after ++ back, ?_, by simpa using nulFront, ?_, blank, ?_⟩
  · rw [split, inner]
    simp only [List.append_assoc, List.cons_append]
  · -- Without blanks in front, the NUL character would have been at the end before.
    rintro rfl
    have outside := bare.first '\x00' (by rw [inner]; rfl)
    simp at outside
  · -- The last character that is left is none, so it stands behind the hidden one.
    cases ending : (kept ++ after).getLast? with
    | none =>
        have nothing : kept ++ after = [] := List.getLast?_eq_none_iff.1 ending
        have outside := bare.last '\x00' (by rw [inner, nothing]; simp)
        simp at outside
    | some last =>
        have outside := bare.last last (by
          rw [inner, List.getLast?_append, List.getLast?_cons, ending]
          rfl)
        refine ⟨last, ?_, by simpa using outside⟩
        exact List.mem_append_left _ (List.mem_of_getLast? ending)

theorem head?_stripPadding_eq_nul_iff
    (characters : List Char) :
    (stripPadding characters).head? = some '\x00' ↔ HasHiddenNul characters :=
  ⟨hasHiddenNul_of_head?, head?_stripPadding_of_hasHiddenNul⟩

instance : DecidablePred HasHiddenNul := fun characters =>
  decidable_of_iff _ (head?_stripPadding_eq_nul_iff characters)

theorem stripPadding_reverse
    (characters : List Char) :
    stripPadding characters.reverse = (stripPadding characters).reverse := by
  rw [stripPadding, stripEnds_reverse, trimList, stripEnds_reverse]
  rfl

/-- What is left starts with padding exactly when blanks hid a NUL character there. -/
theorem forall_head?_stripPadding_iff
    (characters : List Char) :
    (∀ character ∈ (stripPadding characters).head?, isPadding character = false) ↔
      ¬ HasHiddenNul characters := by
  rw [← head?_stripPadding_eq_nul_iff]
  constructor
  · intro bare first
    have outside := bare '\x00' first
    simp [isPadding] at outside
  · intro noNul character first
    rw [isPadding, Bool.or_eq_false_iff, decide_eq_false_iff_not]
    refine ⟨?_, (hasBareEnds_stripEnds isBlank _).first character first⟩
    rintro rfl
    exact noNul first

/-- A text is free of padding unless blanks hide a NUL character at one of its ends. -/
theorem hasBareEnds_stripPadding_iff
    (characters : List Char) :
    HasBareEnds isPadding (stripPadding characters) ↔
      ¬ HasHiddenNul characters ∧ ¬ HasHiddenNul characters.reverse := by
  have behind := forall_head?_stripPadding_iff characters.reverse
  rw [stripPadding_reverse, List.head?_reverse] at behind
  rw [← forall_head?_stripPadding_iff, ← behind]
  exact ⟨fun bare => ⟨bare.first, bare.last⟩, fun bare => ⟨bare.1, bare.2⟩⟩

/-- Padding is all that is dropped. -/
theorem mem_stripPadding
    {characters : List Char}
    {character : Char}
    (outside : isPadding character = false)
    (member : character ∈ characters) :
    character ∈ stripPadding characters := by
  rcases Bool.or_eq_false_iff.1 outside with ⟨noNul, noBlank⟩
  exact mem_stripEnds noBlank (mem_stripEnds noNul member)

theorem mem_of_mem_stripPadding
    {characters : List Char}
    {character : Char}
    (member : character ∈ stripPadding characters) :
    character ∈ characters :=
  mem_of_mem_stripEnds (mem_of_mem_stripEnds member)

/-- Padding alone leaves nothing, if it leaves no padding. -/
theorem stripPadding_eq_nil_iff
    {characters : List Char}
    (bare : HasBareEnds isPadding (stripPadding characters)) :
    stripPadding characters = [] ↔ ∀ character ∈ characters, isPadding character = true := by
  constructor
  · intro nothing character member
    by_contra outside
    have kept := mem_stripPadding (Bool.eq_false_iff.2 outside) member
    rw [nothing] at kept
    cases kept
  · intro padded
    cases left : stripPadding characters with
    | nil =>
        rfl
    | cons first rest =>
        have member : first ∈ stripPadding characters := by
          rw [left]
          exact List.mem_cons_self
        have outside := bare.first first (by rw [left]; rfl)
        rw [padded first (mem_of_mem_stripPadding member)] at outside
        cases outside

/-! ## Texts without padding -/

/-- Whether a text neither starts nor ends with a NUL character or a blank. -/
def IsUnpadded
    (text : String) :
    Prop :=
  ∀ character, isPadding character = true →
    (points text).head? ≠ some character.toNat ∧
      (points text).getLast? ≠ some character.toNat

theorem map_toNat_eq_some_iff
    {held? : Option Char}
    {character : Char} :
    held?.map Char.toNat = some character.toNat ↔ held? = some character := by
  constructor
  · intro same
    rcases Option.map_eq_some_iff.1 same with ⟨held, rfl, equal⟩
    rw [← Char.ofNat_toNat held, equal, Char.ofNat_toNat]
  · rintro rfl
    rfl

theorem isUnpadded_ofCharacters
    (characters : List Char) :
    IsUnpadded (ofCharacters characters) ↔ HasBareEnds isPadding characters := by
  unfold IsUnpadded
  rw [points_ofCharacters, List.head?_map, List.getLast?_map]
  simp only [ne_eq, map_toNat_eq_some_iff]
  constructor
  · intro unpadded
    constructor
    · intro character first
      by_contra padding
      exact (unpadded character (Bool.eq_true_of_not_eq_false padding)).1 first
    · intro character last
      by_contra padding
      exact (unpadded character (Bool.eq_true_of_not_eq_false padding)).2 last
  · intro bare character padding
    constructor
    · intro first
      rw [bare.first character first] at padding
      cases padding
    · intro last
      rw [bare.last character last] at padding
      cases padding

theorem ofCharacters_eq_empty_iff
    (characters : List Char) :
    ofCharacters characters = "" ↔ characters = [] := by
  constructor
  · intro empty
    have nothing := points_ofCharacters characters
    rw [empty] at nothing
    exact List.map_eq_nil_iff.1 nothing.symm
  · rintro rfl
    rfl

/-! ## Texts as they stand in an account -/

/-- The bytes of a text of an account, with those that pad it. -/
structure RawText where
  content : Bytes
  short : content.length < 2 ^ 32

namespace RawText

/-- The bytes of a text behind their number. -/
def encode
    (raw : RawText) :
    Bytes :=
  Bytes.ofNatLittle raw.content.length 4 ++ raw.content

/-- The characters that the bytes are read as. -/
def characters
    (raw : RawText) :
    List Char :=
  decodeUtf8 raw.content

/-- The text that is told. -/
def text
    (raw : RawText) :
    String :=
  ofCharacters (stripPadding raw.characters)

/-- Whether there is nothing but padding. -/
def isAllPadding
    (raw : RawText) :
    Bool :=
  raw.characters.all isPadding

/-- Whether blanks hide a NUL character at one of the ends. -/
def HidesPadding
    (raw : RawText) :
    Prop :=
  HasHiddenNul raw.characters ∨ HasHiddenNul raw.characters.reverse
deriving Decidable

theorem isUnpadded_text_iff
    (raw : RawText) :
    IsUnpadded raw.text ↔ ¬ raw.HidesPadding := by
  rw [text, isUnpadded_ofCharacters, hasBareEnds_stripPadding_iff, HidesPadding, not_or]

/-- Without hidden padding, the text is empty exactly when there was nothing but padding. -/
theorem text_eq_empty_iff
    {raw : RawText}
    (noHidden : ¬ raw.HidesPadding) :
    raw.text = "" ↔ raw.isAllPadding = true := by
  have bare := (hasBareEnds_stripPadding_iff raw.characters).2 (not_or.1 noHidden)
  rw [text, ofCharacters_eq_empty_iff, stripPadding_eq_nil_iff bare, isAllPadding,
    List.all_eq_true]

/-- What is promised of a text that is told. -/
structure IsTrimmedTo
    (raw : RawText)
    (told : String) :
    Prop where
  unpadded : IsUnpadded told
  emptied : raw.isAllPadding = true → told = ""

/-- What an adapter shows, with a default in the place of mere padding. -/
def shown
    (raw : RawText)
    (told fallback : String) :
    String :=
  if raw.isAllPadding then fallback else told

theorem isTrimmedTo_text
    {raw : RawText}
    (noHidden : ¬ raw.HidesPadding) :
    raw.IsTrimmedTo raw.text :=
  ⟨raw.isUnpadded_text_iff.2 noHidden, (text_eq_empty_iff noHidden).2⟩

theorem toldText_text
    {raw : RawText}
    (noHidden : ¬ raw.HidesPadding)
    (fallback : String) :
    toldText fallback (some raw.text) = raw.shown raw.text fallback := by
  rw [toldText, shown]
  exact if_congr (text_eq_empty_iff noHidden) rfl rfl

/-! ### Reading -/

theorem reads_readText
    (raw : RawText) :
    Reads readText raw.encode raw.text := by
  apply (reads_readNumber raw.short).bind
  exact (reads_readBytes raw.content).map fun content =>
    ofCharacters (stripPadding (decodeUtf8 content))

/-- The number in front tells where the bytes of a text end. -/
theorem encode_append_inj
    {left right : RawText}
    {leftRest rightRest : Bytes}
    (same : left.encode ++ leftRest = right.encode ++ rightRest) :
    left = right ∧ leftRest = rightRest := by
  have reads (raw : RawText) : Reads (readNumber 4 >>= readBytes) raw.encode raw.content :=
    (reads_readNumber raw.short).bind (reads_readBytes raw.content)
  have once := reads left leftRest
  rw [same, reads right rightRest] at once
  cases left
  cases right
  cases once
  exact ⟨rfl, rfl⟩

end RawText

/-! ## What was read -/

variable {α β : Type}

theorem run_bind_eq_some
    {reader : Reader α}
    {next : α → Reader β}
    {bytes rest : Bytes}
    {result : β}
    (taken : (reader >>= next).run bytes = some (result, rest)) :
    ∃ value middle,
      reader.run bytes = some (value, middle) ∧
        (next value).run middle = some (result, rest) := by
  cases first : reader.run bytes with
  | none =>
      rw [run_bind_of_none first] at taken
      cases taken
  | some read =>
      rw [run_bind_of_some first] at taken
      exact ⟨read.1, read.2, rfl, taken⟩

theorem readBytes_eq_some
    {count : Nat}
    {bytes front rest : Bytes}
    (taken : (readBytes count).run bytes = some (front, rest)) :
    bytes = front ++ rest ∧ front.length = count := by
  simp only [readBytes, StateT.run] at taken
  split at taken
  · next enough =>
    cases taken
    exact ⟨(List.take_append_drop count bytes).symm, enough⟩
  · cases taken

theorem readKey_eq_some
    {bytes rest : Bytes}
    {key : String}
    (taken : readKey.run bytes = some (key, rest)) :
    ∃ front, bytes = front ++ rest ∧ front.length = 32 := by
  rcases run_bind_eq_some taken with ⟨front, middle, read, made⟩
  cases made
  exact ⟨front, readBytes_eq_some read⟩

theorem readText_eq_some
    {bytes rest : Bytes}
    {text : String}
    (taken : readText.run bytes = some (text, rest)) :
    ∃ raw : RawText, bytes = raw.encode ++ rest ∧ raw.text = text := by
  rcases run_bind_eq_some taken with ⟨length, afterSize, sized, later⟩
  rcases run_bind_eq_some sized with ⟨size, middle, sizeRead, number⟩
  cases number
  rcases run_bind_eq_some later with ⟨content, last, contentRead, made⟩
  cases made
  rcases readBytes_eq_some sizeRead with ⟨rfl, four⟩
  rcases readBytes_eq_some contentRead with ⟨rfl, count⟩
  have fits : content.length < 2 ^ 32 := by
    have below := Bytes.littleEndian_lt size
    rw [four] at below
    omega
  have written : Bytes.ofNatLittle content.length 4 = size := by
    rw [count, ← four, Bytes.ofNatLittle_littleEndian]
  refine ⟨⟨content, fits⟩, ?_, rfl⟩
  rw [RawText.encode, written, List.append_assoc]

/-! ## The texts of an account -/

/-- The bytes of the texts of an account. -/
structure RawTexts where
  name : RawText
  symbol : RawText
  link : RawText

namespace RawTexts

/-- The texts stand in an account one after the other, behind its kind and two addresses. -/
def StandIn
    (texts : RawTexts)
    (bytes : Bytes) :
    Prop :=
  ∃ keys rest,
    keys.length = 64 ∧
      bytes = kindByte :: (keys ++
        (texts.name.encode ++ (texts.symbol.encode ++ (texts.link.encode ++ rest))))

/-- No other texts stand in the same account. -/
theorem StandIn.unique
    {texts others : RawTexts}
    {bytes : Bytes}
    (stand : texts.StandIn bytes)
    (alsoStand : others.StandIn bytes) :
    texts = others := by
  rcases stand with ⟨keys, rest, size, rfl⟩
  rcases alsoStand with ⟨otherKeys, otherRest, otherSize, same⟩
  rcases List.append_inj (List.cons.inj same).2 (size.trans otherSize.symm) with ⟨-, behindKeys⟩
  rcases RawText.encode_append_inj behindKeys with ⟨sameName, behindName⟩
  rcases RawText.encode_append_inj behindName with ⟨sameSymbol, behindSymbol⟩
  rcases RawText.encode_append_inj behindSymbol with ⟨sameLink, -⟩
  cases texts
  cases others
  cases sameName
  cases sameSymbol
  cases sameLink
  rfl

/-- The texts of an account are told as they are read from its bytes. -/
structure AreToldIn
    (texts : RawTexts)
    (metadata : Metadata) :
    Prop where
  name : metadata.name = texts.name.text
  symbol : metadata.symbol = texts.symbol.text
  link : metadata.link = texts.link.text

/-- What is promised of the texts of an account, and of what adapters make of them. -/
structure AreTrimmedIn
    (texts : RawTexts)
    (metadata : Metadata) :
    Prop where
  name : texts.name.IsTrimmedTo metadata.name
  symbol : texts.symbol.IsTrimmedTo metadata.symbol
  link : texts.link.IsTrimmedTo metadata.link
  token : ∀ decimals,
    Rendering.tokenMetadata (.text metadata.symbol) decimals (.text metadata.name) =
      .ok {
        symbol := texts.symbol.shown metadata.symbol unknownSymbol
        decimals
        name := texts.name.shown metadata.name unknownTokenName }
  collectible :
    Rendering.solanaNft (nftEntry metadata) =
      .ok {
        mint := metadata.mint
        tokenId := ""
        collection := unknownCollectionName
        name := texts.name.shown metadata.name unknownNftName
        image := texts.link.shown metadata.link "" }

/-- Whether a NUL character is hidden at an end of some text of an account. -/
def HidePadding
    (texts : RawTexts) :
    Prop :=
  texts.name.HidesPadding ∨ texts.symbol.HidesPadding ∨ texts.link.HidesPadding
deriving Decidable

variable {texts : RawTexts} {metadata : Metadata}

theorem AreToldIn.areTrimmedIn_iff
    (told : texts.AreToldIn metadata) :
    texts.AreTrimmedIn metadata ↔ ¬ texts.HidePadding := by
  constructor
  · rintro trimmed (inName | inSymbol | inLink)
    · exact texts.name.isUnpadded_text_iff.1 (told.name ▸ trimmed.name.unpadded) inName
    · exact texts.symbol.isUnpadded_text_iff.1 (told.symbol ▸ trimmed.symbol.unpadded) inSymbol
    · exact texts.link.isUnpadded_text_iff.1 (told.link ▸ trimmed.link.unpadded) inLink
  · intro noHidden
    rcases not_or.1 noHidden with ⟨noneInName, noneInRest⟩
    rcases not_or.1 noneInRest with ⟨noneInSymbol, noneInLink⟩
    constructor
    · rw [told.name]
      exact RawText.isTrimmedTo_text noneInName
    · rw [told.symbol]
      exact RawText.isTrimmedTo_text noneInSymbol
    · rw [told.link]
      exact RawText.isTrimmedTo_text noneInLink
    · intro decimals
      rw [told.name, told.symbol, tokenMetadata_text, RawText.toldText_text noneInName,
        RawText.toldText_text noneInSymbol]
    · rw [solanaNft_nftEntry, told.name, told.link, RawText.toldText_text noneInName,
        ← RawText.toldText_text noneInLink, toldText_empty]

/-- Every account that is read holds the bytes of its texts. -/
theorem exists_standIn_of_decode
    {bytes : Bytes}
    (decoded : decode bytes = .ok metadata) :
    ∃ texts : RawTexts, texts.StandIn bytes ∧ texts.AreToldIn metadata := by
  rcases decode_eq_ok decoded with ⟨fields, unread, rfl, taken⟩
  rcases run_bind_eq_some taken with ⟨authority, afterAuthority, readAuthority, later⟩
  rcases run_bind_eq_some later with ⟨mint, afterMint, readMint, later⟩
  rcases run_bind_eq_some later with ⟨name, afterName, readName, later⟩
  rcases run_bind_eq_some later with ⟨symbol, afterSymbol, readSymbol, later⟩
  rcases run_bind_eq_some later with ⟨link, afterLink, readLink, later⟩
  rcases run_bind_eq_some later with ⟨fee, afterFee, -, later⟩
  rcases run_bind_eq_some later with ⟨creators, afterCreators, -, later⟩
  rcases run_bind_eq_some later with ⟨sold, afterSold, -, later⟩
  rcases run_bind_eq_some later with ⟨mutable, last, -, made⟩
  cases made
  rcases readKey_eq_some readAuthority with ⟨authorityKey, rfl, authoritySize⟩
  rcases readKey_eq_some readMint with ⟨mintKey, rfl, mintSize⟩
  rcases readText_eq_some readName with ⟨rawName, rfl, rfl⟩
  rcases readText_eq_some readSymbol with ⟨rawSymbol, rfl, rfl⟩
  rcases readText_eq_some readLink with ⟨rawLink, rfl, rfl⟩
  refine ⟨⟨rawName, rawSymbol, rawLink⟩, ⟨authorityKey ++ mintKey, afterLink, ?_, ?_⟩,
    ⟨rfl, rfl, rfl⟩⟩
  · rw [List.length_append, authoritySize, mintSize]
  · rw [List.append_assoc]

end RawTexts

/-! ## Accounts with given texts -/

namespace RawTexts

/-- The bytes of an account with these texts, in which all else is zero. -/
def account
    (texts : RawTexts) :
    Bytes :=
  kindByte :: (List.replicate 32 0 ++ (List.replicate 32 0 ++
    (texts.name.encode ++ (texts.symbol.encode ++ (texts.link.encode ++
      ([0, 0] ++ ([0] ++ ([0] ++ [0]))))))))

/-- What such an account says. -/
def metadata
    (texts : RawTexts) :
    Metadata where
  updateAuthority := Base58.encode (List.replicate 32 0)
  mint := Base58.encode (List.replicate 32 0)
  name := texts.name.text
  symbol := texts.symbol.text
  link := texts.link.text
  sellerFee := 0
  creators := []
  primarySaleHappened := false
  isMutable := false

theorem standIn_account
    (texts : RawTexts) :
    texts.StandIn texts.account :=
  ⟨List.replicate 32 0 ++ List.replicate 32 0, _, rfl, by rw [account, List.append_assoc]⟩

/-- Whatever bytes stand for the texts, there is an account with them. -/
theorem decode_account
    (texts : RawTexts) :
    decode texts.account = .ok texts.metadata := by
  have key : Reads readKey (List.replicate 32 0) (Base58.encode (List.replicate 32 0)) :=
    reads_readKey rfl
  have fee : Reads (readNumber 2) [0, 0] 0 := (reads_readBytes [0, 0]).map Bytes.littleEndian
  have fields : Reads readFields texts.account.tail texts.metadata := by
    apply key.bind
    apply key.bind
    apply texts.name.reads_readText.bind
    apply texts.symbol.reads_readText.bind
    apply texts.link.reads_readText.bind
    apply fee.bind
    apply ((reads_readFlag 0).bind (.pure [])).bind
    apply (reads_readFlag 0).bind
    exact (reads_readFlag 0).map _
  have decoded : decode (texts.account ++ []) = .ok texts.metadata :=
    StoredMetadata.decode_of_reads fields
  rwa [List.append_nil] at decoded

end RawTexts

/-! ## Which accounts keep padding -/

/--
Exactly the accounts without a hidden NUL character keep what is promised: their texts come
without padding, and adapters fill in for those that are nothing else.
-/
theorem decode_areTrimmedIn_iff
    {bytes : Bytes}
    {metadata : Metadata}
    (decoded : decode bytes = .ok metadata) :
    ∃ texts : RawTexts,
      texts.StandIn bytes ∧
        (∀ others : RawTexts, others.StandIn bytes → others = texts) ∧
          (texts.AreTrimmedIn metadata ↔ ¬ texts.HidePadding) := by
  rcases RawTexts.exists_standIn_of_decode decoded with ⟨texts, stand, told⟩
  exact ⟨texts, stand, fun others alsoStand => alsoStand.unique stand, told.areTrimmedIn_iff⟩

/-- A name and a symbol with padding around them, and no link. -/
def paddedTexts : RawTexts where
  name := ⟨[0, 32, 65, 32, 0], by decide⟩
  symbol := ⟨[32, 0], by decide⟩
  link := ⟨[], by decide⟩

theorem areTrimmedIn_paddedTexts :
    decode paddedTexts.account = .ok paddedTexts.metadata ∧
      paddedTexts.AreTrimmedIn paddedTexts.metadata := by
  have decoded := paddedTexts.decode_account
  rcases decode_areTrimmedIn_iff decoded with ⟨texts, stand, -, trimmed⟩
  have same : texts = paddedTexts := stand.unique paddedTexts.standIn_account
  subst same
  exact ⟨decoded, trimmed.2 (by decide)⟩

/-- A name that is nothing but padding, in which blanks hide a NUL character. -/
def hiddenTexts : RawTexts where
  name := ⟨[32, 0, 32], by decide⟩
  symbol := ⟨[], by decide⟩
  link := ⟨[], by decide⟩

theorem not_areTrimmedIn_hiddenTexts :
    decode hiddenTexts.account = .ok hiddenTexts.metadata ∧
      hiddenTexts.StandIn hiddenTexts.account ∧
        ¬ hiddenTexts.AreTrimmedIn hiddenTexts.metadata := by
  refine ⟨hiddenTexts.decode_account, hiddenTexts.standIn_account, ?_⟩
  intro trimmed
  have emptied : hiddenTexts.name.text = "" := trimmed.name.emptied (by decide)
  have kept : stripPadding hiddenTexts.name.characters = ['\x00'] := by decide
  rw [RawText.text, kept, ofCharacters_eq_empty_iff] at emptied
  cases emptied

end Metadata

end Holdings.Solana
