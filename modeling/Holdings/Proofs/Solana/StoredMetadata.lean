import Holdings.Proofs.Solana.Reading

/-!
# Metadata accounts as they are stored

What a metadata account can hold, in the form in which it is stored: addresses
of 32 bytes, texts with any number of NUL bytes behind them, flags that any byte
but zero sets.  A stored account is written as its fields in the order of the
layout, and is read back as these fields, whatever bytes follow it.
-/

namespace Holdings.Solana

open Text Metadata

/-! ## The parts of an account -/

/-- The bytes of an address. -/
structure Address where
  bytes : Bytes
  size : bytes.length = 32
deriving DecidableEq, Repr

/-- The text of an address. -/
def Address.text
    (address : Address) :
    String :=
  Base58.encode address.bytes

theorem Address.reads_readKey
    (address : Address) :
    Reads readKey address.bytes address.text :=
  Metadata.reads_readKey address.size

/-- A text with NUL bytes behind it. -/
structure StoredText where
  characters : List Char
  padding : Nat
  bare : HasBareEnds isPadding characters
  short : (encodeUtf8 characters).length + padding < 2 ^ 32

namespace StoredText

/-- The bytes of a text, with their number in front. -/
def encode
    (stored : StoredText) :
    Bytes :=
  Bytes.ofNatLittle ((encodeUtf8 stored.characters).length + stored.padding) 4 ++
    (encodeUtf8 stored.characters ++ List.replicate stored.padding 0)

/-- The text that is stored. -/
def text
    (stored : StoredText) :
    String :=
  ofCharacters stored.characters

theorem reads_readText
    (stored : StoredText) :
    Reads readText stored.encode stored.text :=
  Metadata.reads_readText stored.bare stored.short

end StoredText

/-- A creator of a token. -/
structure StoredCreator where
  address : Address
  verified : UInt8
  share : UInt8
deriving DecidableEq, Repr

namespace StoredCreator

/-- The bytes of a creator. -/
def encode
    (stored : StoredCreator) :
    Bytes :=
  stored.address.bytes ++ [stored.verified] ++ [stored.share]

/-- The creator that is stored. -/
def creator
    (stored : StoredCreator) :
    Creator :=
  ⟨stored.address.text, stored.verified != 0, stored.share.toNat⟩

theorem reads_readCreator
    (stored : StoredCreator) :
    Reads readCreator stored.encode stored.creator := by
  rw [encode, List.append_assoc]
  apply stored.address.reads_readKey.bind
  apply (reads_readFlag stored.verified).bind
  exact (reads_byte stored.share).map _

/-- Creators that are stored one after the other are read in order. -/
theorem reads_readCreatorList
    (creators : List StoredCreator) :
    Reads (readCreatorList creators.length) (creators.flatMap encode) (creators.map creator) := by
  induction creators with
  | nil =>
      exact .pure []
  | cons first rest induction =>
      rw [List.flatMap_cons, List.map_cons]
      apply first.reads_readCreator.bind
      exact induction.map _

end StoredCreator

/-- The creators of a token: none behind a zero, or a list behind any other byte. -/
inductive StoredCreators where
  | absent
  | listed
      (flag : UInt8)
      (set : flag ≠ 0)
      (creators : List StoredCreator)
      (few : creators.length < 2 ^ 32)

namespace StoredCreators

/-- The bytes of the creators. -/
def encode : StoredCreators → Bytes
  | absent => [0]
  | listed flag _ creators _ =>
    [flag] ++ (Bytes.ofNatLittle creators.length 4 ++ creators.flatMap StoredCreator.encode)

/-- The creators that are stored. -/
def creators : StoredCreators → List Creator
  | absent => []
  | listed _ _ creators _ => creators.map StoredCreator.creator

theorem reads_readCreators
    (stored : StoredCreators) :
    Reads readCreators stored.encode stored.creators := by
  cases stored with
  | absent =>
      exact (reads_readFlag 0).bind (.pure [])
  | listed flag set creators few =>
      have isSet : (flag != 0) = true := by
        simpa using set
      apply (reads_readFlag flag).bind
      rw [isSet]
      exact (reads_readNumber few).bind (StoredCreator.reads_readCreatorList creators)

end StoredCreators

/-! ## The whole account -/

/-- A metadata account. -/
structure StoredMetadata where
  updateAuthority : Address
  mint : Address
  name : StoredText
  symbol : StoredText
  link : StoredText
  sellerFee : Nat
  feeFits : sellerFee < 2 ^ 16
  creators : StoredCreators
  primarySaleHappened : UInt8
  isMutable : UInt8

namespace StoredMetadata

/-- The bytes of an account behind its first byte. -/
def encodeFields
    (stored : StoredMetadata) :
    Bytes :=
  stored.updateAuthority.bytes ++ (stored.mint.bytes ++ (stored.name.encode ++
    (stored.symbol.encode ++ (stored.link.encode ++ (Bytes.ofNatLittle stored.sellerFee 2 ++
      (stored.creators.encode ++ ([stored.primarySaleHappened] ++ [stored.isMutable])))))))

/-- The bytes of an account. -/
def encode
    (stored : StoredMetadata) :
    Bytes :=
  kindByte :: stored.encodeFields

/-- What an account says. -/
def metadata
    (stored : StoredMetadata) :
    Metadata where
  updateAuthority := stored.updateAuthority.text
  mint := stored.mint.text
  name := stored.name.text
  symbol := stored.symbol.text
  link := stored.link.text
  sellerFee := stored.sellerFee
  creators := stored.creators.creators
  primarySaleHappened := stored.primarySaleHappened != 0
  isMutable := stored.isMutable != 0

theorem reads_readFields
    (stored : StoredMetadata) :
    Reads readFields stored.encodeFields stored.metadata := by
  apply stored.updateAuthority.reads_readKey.bind
  apply stored.mint.reads_readKey.bind
  apply stored.name.reads_readText.bind
  apply stored.symbol.reads_readText.bind
  apply stored.link.reads_readText.bind
  apply (reads_readNumber stored.feeFits).bind
  apply stored.creators.reads_readCreators.bind
  apply (reads_readFlag stored.primarySaleHappened).bind
  exact (reads_readFlag stored.isMutable).map _

theorem decode_of_reads
    {fields trailing : Bytes}
    {metadata : Metadata}
    (reads : Reads readFields fields metadata) :
    Metadata.decode (kindByte :: fields ++ trailing) = .ok metadata := by
  rw [List.cons_append, Metadata.decode, if_pos rfl, reads trailing]

/-- A stored account is read as what it says, whatever bytes follow it. -/
theorem decode_encode_append
    (stored : StoredMetadata)
    (trailing : Bytes) :
    Metadata.decode (stored.encode ++ trailing) = .ok stored.metadata :=
  decode_of_reads stored.reads_readFields

end StoredMetadata

end Holdings.Solana
