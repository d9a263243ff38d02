import Holdings.Proofs.Solana.Reading

/-!
# How much of an account is read

A reader is exact when it needs every byte that it takes and looks at no other.
Readers that come one after the other are exact together, so an account is decided
by a first part of its bytes: any shorter part is refused, and what stands behind it
is of no account.  Lengths that are read drive what is read next, but whatever they
claim, each creator that is told has its own bytes in this part.
-/

namespace Holdings.Solana.Metadata

variable {α β : Type}

/-! ## Exact readers -/

/-- A reader takes exactly these bytes as a value, and can do without none of them. -/
structure Takes
    (reader : Reader α)
    (bytes : Bytes)
    (value : α) :
    Prop where
  reads : Reads reader bytes value
  cut : ∀ count < bytes.length, reader.run (bytes.take count) = none

/--
Whatever a reader takes from the front of a byte string, it takes wherever these bytes stand,
and it takes at least so many for a value.
-/
def IsExact
    (reader : Reader α)
    (least : α → Nat) :
    Prop :=
  ∀ bytes value rest,
    reader.run bytes = some (value, rest) →
      ∃ front, bytes = front ++ rest ∧ least value ≤ front.length ∧ Takes reader front value

theorem run_bind_of_none
    {reader : Reader α}
    {bytes : Bytes}
    (short : reader.run bytes = none)
    (next : α → Reader β) :
    (reader >>= next).run bytes = none := by
  rw [StateT.run_bind, short]
  rfl

theorem run_bind_of_some
    {reader : Reader α}
    {bytes rest : Bytes}
    {value : α}
    (read : reader.run bytes = some (value, rest))
    (next : α → Reader β) :
    (reader >>= next).run bytes = (next value).run rest := by
  rw [StateT.run_bind, read]
  rfl

/-- A cut falls into the bytes of the first reader, or it leaves these whole. -/
theorem Takes.bind
    {reader : Reader α}
    {next : α → Reader β}
    {front back : Bytes}
    {first : α}
    {second : β}
    (takesFront : Takes reader front first)
    (takesBack : Takes (next first) back second) :
    Takes (reader >>= next) (front ++ back) second := by
  refine ⟨takesFront.reads.bind takesBack.reads, ?_⟩
  intro count early
  rw [List.length_append] at early
  by_cases inFront : count < front.length
  · rw [List.take_append_of_le_length (Nat.le_of_lt inFront)]
    exact run_bind_of_none (takesFront.cut count inFront) next
  · have split : (front ++ back).take count = front ++ back.take (count - front.length) := by
      rw [List.take_append, List.take_of_length_le (Nat.le_of_not_lt inFront)]
    rw [split, run_bind_of_some (takesFront.reads _) next]
    exact takesBack.cut _ (by omega)

namespace IsExact

variable {least : α → Nat}

theorem pure
    {value : α}
    (nothing : least value = 0) :
    IsExact (Pure.pure value) least := by
  intro bytes read rest taken
  cases taken
  refine ⟨[], rfl, Nat.le_of_eq nothing, .pure value, ?_⟩
  intro count early
  exact absurd early (Nat.not_lt_zero count)

/-- What the first reader takes counts for the whole. -/
theorem bind
    {reader : Reader α}
    {next : α → Reader β}
    {own : α → Nat}
    {whole : β → Nat}
    (here : IsExact reader own)
    (later : ∀ value, IsExact (next value) fun result => whole result - own value) :
    IsExact (reader >>= next) whole := by
  intro bytes result rest taken
  cases first : reader.run bytes with
  | none =>
      rw [run_bind_of_none first] at taken
      cases taken
  | some read =>
      rcases read with ⟨value, middle⟩
      rw [run_bind_of_some first] at taken
      rcases here bytes value middle first with ⟨front, rfl, enough, takesFront⟩
      rcases later value middle result rest taken with ⟨back, rfl, more, takesBack⟩
      refine ⟨front ++ back, (List.append_assoc ..).symm, ?_, takesFront.bind takesBack⟩
      have both : whole result ≤ own value + back.length := Nat.sub_le_iff_le_add'.mp more
      rw [List.length_append]
      exact both.trans (Nat.add_le_add_right enough _)

/-- A value that is only reshaped takes no further bytes. -/
theorem map
    {reader : Reader α}
    {reshape : α → β}
    {whole : β → Nat}
    (exact : IsExact reader least)
    (below : ∀ value, whole (reshape value) ≤ least value) :
    IsExact (reader >>= fun value => Pure.pure (reshape value)) whole :=
  exact.bind fun value => .pure (Nat.sub_eq_zero_of_le (below value))

/-- A reader that is exact, whatever it takes. -/
theorem any
    {reader : Reader α}
    (exact : IsExact reader least) :
    IsExact reader fun _ => 0 := by
  intro bytes value rest taken
  rcases exact bytes value rest taken with ⟨front, same, -, takes⟩
  exact ⟨front, same, Nat.zero_le _, takes⟩

end IsExact

/-! ## The pieces of an account -/

theorem isExact_readBytes
    (count : Nat) :
    IsExact (readBytes count) fun _ => count := by
  intro bytes value rest taken
  simp only [readBytes, StateT.run, List.length_take] at taken
  split at taken
  · next enough =>
    cases taken
    have size : (bytes.take count).length = count := List.length_take.trans enough
    refine ⟨bytes.take count, (List.take_append_drop count bytes).symm, Nat.le_of_eq size.symm,
      ?_, ?_⟩
    · have reads := reads_readBytes (bytes.take count)
      rwa [size] at reads
    · intro shorter early
      rw [size] at early
      simp only [readBytes, StateT.run, List.take_take, List.length_take]
      rw [if_neg (by omega)]
  · cases taken

theorem isExact_readNumber
    (count : Nat) :
    IsExact (readNumber count) fun _ => count :=
  (isExact_readBytes count).map fun _ => Nat.le_refl _

theorem isExact_readFlag :
    IsExact readFlag fun _ => 1 :=
  (isExact_readNumber 1).map fun _ => Nat.le_refl _

theorem isExact_readKey :
    IsExact readKey fun _ => 32 :=
  (isExact_readBytes 32).map fun _ => Nat.le_refl _

theorem isExact_readText :
    IsExact readText fun _ => 4 := by
  apply (isExact_readNumber 4).bind
  intro length
  exact (isExact_readBytes length).map fun _ => Nat.zero_le _

theorem isExact_readCreator :
    IsExact readCreator fun _ => 34 := by
  apply isExact_readKey.bind
  intro address
  apply isExact_readFlag.bind
  intro verified
  exact (isExact_readNumber 1).map fun _ => Nat.le_refl _

/-- However many creators are announced, each one that is read takes bytes of its own. -/
theorem isExact_readCreatorList
    (count : Nat) :
    IsExact (readCreatorList count) fun creators => 34 * creators.length := by
  induction count with
  | zero =>
      exact .pure rfl
  | succ count induction =>
      apply isExact_readCreator.bind
      intro creator
      apply induction.map
      intro creators
      rw [List.length_cons]
      omega

theorem isExact_readCreators :
    IsExact readCreators fun creators => 34 * creators.length := by
  apply isExact_readFlag.any.bind
  intro listed
  cases listed with
  | false =>
      exact .pure rfl
  | true =>
      apply (isExact_readNumber 4).any.bind
      exact isExact_readCreatorList

theorem isExact_readFields :
    IsExact readFields fun metadata => 34 * metadata.creators.length := by
  apply isExact_readKey.any.bind
  intro updateAuthority
  apply isExact_readKey.any.bind
  intro mint
  apply isExact_readText.any.bind
  intro name
  apply isExact_readText.any.bind
  intro symbol
  apply isExact_readText.any.bind
  intro link
  apply (isExact_readNumber 2).any.bind
  intro sellerFee
  apply isExact_readCreators.bind
  intro creators
  apply isExact_readFlag.any.bind
  intro primarySaleHappened
  exact isExact_readFlag.map fun isMutable => by simp

/-! ## The whole account -/

/-- Whatever is no account is refused as an unacceptable value. -/
theorem kind_of_decode
    {bytes : Bytes}
    {fault : Fault}
    (refused : decode bytes = .error fault) :
    fault.kind = .value := by
  unfold decode at refused
  split at refused
  · cases refused
    rfl
  · split at refused
    · split at refused
      · cases refused
      · cases refused
        rfl
    · cases refused
      rfl

theorem decode_eq_ok
    {bytes : Bytes}
    {metadata : Metadata}
    (decoded : decode bytes = .ok metadata) :
    ∃ fields rest,
      bytes = kindByte :: fields ∧ readFields.run fields = some (metadata, rest) := by
  unfold decode at decoded
  split at decoded
  · cases decoded
  · next kind fields =>
    split at decoded
    · next isKind =>
      split at decoded
      · next read rest taken =>
        cases decoded
        exact ⟨fields, rest, by rw [isKind], taken⟩
      · cases decoded
    · cases decoded

/--
An account is decided by so many bytes at its front: no fewer are enough, and nothing behind
them counts.  The creators that it tells have their place in these bytes.
-/
structure DecidedBy
    (bytes : Bytes)
    (metadata : Metadata)
    (extent : Nat) :
    Prop where
  within : extent ≤ bytes.length
  cut : ∀ count < extent, ∃ fault,
    decode (bytes.take count) = .error fault ∧ fault.kind = .value
  determined : ∀ other, bytes.take extent <+: other → decode other = .ok metadata
  creators : metadata.creators.length * 34 < extent

/-- There are no two places at which an account can be cut. -/
theorem DecidedBy.le
    {bytes : Bytes}
    {metadata : Metadata}
    {first second : Nat}
    (atFirst : DecidedBy bytes metadata first)
    (atSecond : DecidedBy bytes metadata second) :
    first ≤ second := by
  by_contra later
  rcases atFirst.cut second (Nat.lt_of_not_le later) with ⟨fault, refused, -⟩
  rw [atSecond.determined _ (List.prefix_refl _)] at refused
  cases refused

theorem decidedBy_of_takes
    {fields : Bytes}
    {metadata : Metadata}
    (rest : Bytes)
    (takes : Takes readFields fields metadata)
    (enough : 34 * metadata.creators.length ≤ fields.length) :
    DecidedBy (kindByte :: (fields ++ rest)) metadata (fields.length + 1) := by
  have front : (kindByte :: (fields ++ rest)).take (fields.length + 1) = kindByte :: fields := by
    rw [List.take_succ_cons, List.take_left]
  constructor
  · rw [List.length_cons, List.length_append]
    omega
  · intro count early
    cases count with
    | zero =>
        exact ⟨.notMetadata, rfl, rfl⟩
    | succ count =>
        refine ⟨.truncatedMetadata, ?_, rfl⟩
        have inFields : count < fields.length := by omega
        rw [List.take_succ_cons, List.take_append_of_le_length (Nat.le_of_lt inFields), decode,
          if_pos rfl, takes.cut count inFields]
  · intro other starts
    rw [front] at starts
    rcases starts with ⟨trailing, rfl⟩
    rw [List.cons_append, decode, if_pos rfl, takes.reads trailing]
  · omega

/--
Every byte string is refused as an unacceptable value, or it is an account that is decided by
one number of bytes at its front.
-/
theorem decode_decided
    (bytes : Bytes) :
    (∃ fault, decode bytes = .error fault ∧ fault.kind = .value) ∨
      ∃ metadata,
        decode bytes = .ok metadata ∧ ∃! extent, DecidedBy bytes metadata extent := by
  cases decoded : decode bytes with
  | error fault =>
      exact .inl ⟨fault, rfl, kind_of_decode decoded⟩
  | ok metadata =>
      right
      rcases decode_eq_ok decoded with ⟨fields, rest, rfl, taken⟩
      rcases isExact_readFields fields metadata rest taken with ⟨front, rfl, enough, takes⟩
      have decided := decidedBy_of_takes rest takes enough
      refine ⟨metadata, rfl, front.length + 1, decided, ?_⟩
      intro other atOther
      exact Nat.le_antisymm (atOther.le decided) (decided.le atOther)

end Holdings.Solana.Metadata
