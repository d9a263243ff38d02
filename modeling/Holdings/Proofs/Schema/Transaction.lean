import Holdings.Proofs.Backend.Questions
import Holdings.Schema.Models

/-!
# Transactions that are taken in

A value that the model of a transaction takes names its sender by a text, and
names recipient and data by texts, if at all.
-/

namespace Holdings.Schema

/-! ## What shapes take -/

theorem allSome_cons_eq_some
    {α : Type}
    {first : Option α}
    {rest : List (Option α)}
    {values : List α}
    (all : allSome (first :: rest) = some values) :
    ∃ value others, first = some value ∧ allSome rest = some others ∧ values = value :: others := by
  cases first with
  | none =>
      cases all
  | some value =>
      rcases Option.map_eq_some_iff.1 all with ⟨others, passed, same⟩
      exact ⟨value, others, rfl, passed, same.symm⟩

/-- What a field of a record holds: what its shape takes, or what stands for a value left out. -/
def Holds
    (field : Field)
    (shape : Shape)
    (accepted : Accepted) :
    Prop :=
  (∃ given, shape.accept? given = some accepted) ∨
    ∃ fallback, field.fallback = some fallback ∧ accepted = .plain fallback

theorem acceptEach_cons_eq_some
    {field : Field}
    {shape : Shape}
    {rest : List (Field × Shape)}
    {members : List (String × Json)}
    {entries : List (Field × Accepted)}
    (all : allSome (acceptEach ((field, shape) :: rest) members) = some entries) :
    ∃ accepted others,
      Holds field shape accepted ∧ allSome (acceptEach rest members) = some others ∧
        entries = (field, accepted) :: others := by
  rw [acceptEach] at all
  rcases allSome_cons_eq_some all with ⟨entry, others, first, passed, same⟩
  cases found : given? members field with
  | some given =>
      rw [found] at first
      rcases Option.map_eq_some_iff.1 first with ⟨accepted, taken, rfl⟩
      exact ⟨accepted, others, Or.inl ⟨given, taken⟩, passed, same⟩
  | none =>
      rw [found] at first
      rcases Option.map_eq_some_iff.1 first with ⟨fallback, there, rfl⟩
      exact ⟨_, others, Or.inr ⟨fallback, there, rfl⟩, passed, same⟩

theorem accept?_text
    {given : Json}
    {accepted : Accepted}
    (taken : Shape.text.accept? given = some accepted) :
    ∃ written, accepted = .plain (.text written) := by
  cases given with
  | text written =>
      simp only [Shape.accept?] at taken
      cases taken
      exact ⟨written, rfl⟩
  | _ =>
      simp only [Shape.accept?] at taken
      cases taken

theorem accept?_integerOrText
    {given : Json}
    {accepted : Accepted}
    (taken : Shape.integerOrText.accept? given = some accepted) :
    ∃ value, accepted = .plain value := by
  cases given with
  | text written =>
      simp only [Shape.accept?] at taken
      cases taken
      exact ⟨_, rfl⟩
  | _ =>
      simp only [Shape.accept?] at taken
      rcases Option.map_eq_some_iff.1 taken with ⟨number, -, same⟩
      exact ⟨_, same.symm⟩

/-- A field that may be left out holds null, or what its shape takes. -/
theorem holds_optional
    {name label : String}
    {shape : Shape}
    {accepted : Accepted}
    (holds : Holds (optional name label shape).1 (optional name label shape).2 accepted) :
    accepted = .plain .null ∨ ∃ given, shape.accept? given = some accepted := by
  rcases holds with ⟨given, taken⟩ | ⟨fallback, there, rfl⟩
  · change (Shape.optional shape).accept? given = some accepted at taken
    by_cases missing : given = .null
    · subst missing
      simp only [Shape.accept?] at taken
      cases taken
      exact Or.inl rfl
    · simp only [Shape.accept?] at taken
      exact Or.inr ⟨given, taken⟩
  · cases there
    exact Or.inl rfl

theorem holds_required_text
    {name label : String}
    {accepted : Accepted}
    (holds : Holds (required name label .text).1 (required name label .text).2 accepted) :
    ∃ written, accepted = .plain (.text written) := by
  rcases holds with ⟨given, taken⟩ | ⟨fallback, there, -⟩
  · exact accept?_text taken
  · cases there

theorem holds_optional_text
    {name label : String}
    {accepted : Accepted}
    (holds :
      Holds (optional name label .text).1 (optional name label .text).2 accepted) :
    ∃ value : Json, value.IsTextOrNull ∧ accepted = .plain value := by
  rcases holds_optional holds with rfl | ⟨given, taken⟩
  · exact ⟨.null, Or.inl rfl, rfl⟩
  · rcases accept?_text taken with ⟨written, rfl⟩
    exact ⟨.text written, Or.inr ⟨written, rfl⟩, rfl⟩

theorem holds_optional_integerOrText
    {name label : String}
    {accepted : Accepted}
    (holds :
      Holds (optional name label .integerOrText).1 (optional name label .integerOrText).2
        accepted) :
    ∃ value, accepted = .plain value := by
  rcases holds_optional holds with rfl | ⟨given, taken⟩
  · exact ⟨.null, rfl⟩
  · exact accept?_integerOrText taken

/-! ## What fields take -/

theorem acceptEach_required
    {name label : String}
    {shape : Shape}
    {rest : List (Field × Shape)}
    {members : List (String × Json)}
    {given : Json}
    {accepted : Accepted}
    (there : Json.find? members label = some given)
    (taken : shape.accept? given = some accepted) :
    acceptEach (required name label shape :: rest) members =
      some ((required name label shape).1, accepted) :: acceptEach rest members := by
  have found : given? members (required name label shape).1 = some given := by
    rw [given?, required, there]
  rw [required, acceptEach]
  rw [required] at found
  simp only [found, taken, Option.map_some]

/-- A field that may be left out takes null for what is left out. -/
theorem acceptEach_optional
    {name : String}
    {shape : Shape}
    {rest : List (Field × Shape)}
    {members : List (String × Json)}
    {value : Json}
    (held : (Json.find? members name).getD .null = value)
    (taken : value ≠ .null → shape.accept? value = some (.plain value)) :
    acceptEach (optional name name shape :: rest) members =
      some ((optional name name shape).1, .plain value) :: acceptEach rest members := by
  have accepted : (Shape.optional shape).accept? value = some (.plain value) := by
    by_cases missing : value = .null
    · rw [missing, Shape.accept?]
    · rw [Shape.accept?]
      · exact taken missing
      · exact missing
  rw [optional, defaulted, acceptEach]
  cases found : Json.find? members name with
  | none =>
      rw [found] at held
      cases held
      simp [given?, found]
  | some given =>
      have same : given = value := by
        rw [found] at held
        exact held
      rw [← same] at accepted ⊢
      simp [given?, found, accepted]

theorem accept?_text_ofText?
    {written? : Option String}
    (given : Json.ofText? written? ≠ .null) :
    Shape.text.accept? (.ofText? written?) = some (.plain (.ofText? written?)) := by
  cases written? with
  | none =>
      exact absurd rfl given
  | some written =>
      rw [Json.ofText?, Shape.accept?]

/-- An amount is taken in as it is spelled. -/
theorem accept?_amount
    {value : Json}
    {amount : Nat}
    (readable : Amount.read value = .ok amount)
    (given : value ≠ .null) :
    Shape.integerOrText.accept? value = some (.plain value) := by
  cases value with
  | null =>
      exact absurd rfl given
  | int value =>
      rw [Shape.accept?]
      · rfl
      · intro written same
        cases same
  | text written =>
      rw [Shape.accept?]
  | _ =>
      simp [Amount.read] at readable

/-! ## The model of a transaction -/

/-- A member of a public record, which leaves out what is null. -/
def keptMember
    (name : String)
    (value : Json) :
    List (String × Json) :=
  if value.isNull then [] else [(name, value)]

theorem find?_keptMember_append_of_ne
    {name other : String}
    (different : other ≠ name)
    (value : Json)
    (rest : List (String × Json)) :
    Json.find? (keptMember name value ++ rest) other = Json.find? rest other := by
  unfold keptMember
  split
  · rfl
  · simp [Json.find?, List.lookup_cons, beq_false_of_ne different]

/-- What is left out can be looked up like what is null. -/
theorem find?_keptMember_append
    {name : String}
    {rest : List (String × Json)}
    (notBehind : Json.find? rest name = none)
    (value : Json) :
    (Json.find? (keptMember name value ++ rest) name).getD .null = value := by
  unfold keptMember
  by_cases missing : value.isNull = true
  · rw [if_pos missing, List.nil_append, notBehind]
    cases value with
    | null =>
        rfl
    | _ =>
        cases missing
  · rw [if_neg missing]
    simp [Json.find?]

/-- Members that are kept one after the other are looked up like what they were made of. -/
theorem find?_keptMembers
    (recipient data value : Json) :
    let members := keptMember "to" recipient ++ (keptMember "data" data ++ keptMember "value" value)
    (Json.find? members "to").getD .null = recipient ∧
      (Json.find? members "data").getD .null = data ∧
        (Json.find? members "value").getD .null = value := by
  intro members
  have onlyValue {name : String} (other : name ≠ "value") :
      Json.find? (keptMember "value" value) name = none := by
    have skipped := find?_keptMember_append_of_ne other value []
    rwa [List.append_nil] at skipped
  refine ⟨?_, ?_, ?_⟩
  · have different : "to" ≠ "data" := by decide
    have notBehind :
        Json.find? (keptMember "data" data ++ keptMember "value" value) "to" = none := by
      rw [find?_keptMember_append_of_ne different]
      exact onlyValue (by decide)
    exact find?_keptMember_append notBehind recipient
  · have different : "data" ≠ "to" := by decide
    have notBehind : Json.find? (keptMember "value" value) "data" = none :=
      onlyValue (by decide)
    rw [find?_keptMember_append_of_ne different]
    exact find?_keptMember_append notBehind data
  · have notTo : "value" ≠ "to" := by decide
    have notData : "value" ≠ "data" := by decide
    have nothingBehind : Json.find? [] "value" = none := rfl
    have last := find?_keptMember_append nothingBehind value
    rw [List.append_nil] at last
    rw [find?_keptMember_append_of_ne notTo, find?_keptMember_append_of_ne notData]
    exact last

theorem entriesToJson_cons_plain
    (field : Field)
    (value : Json)
    (rest : List (Field × Accepted)) :
    entriesToJson false ((field, .plain value) :: rest) =
      keptMember field.label value ++ entriesToJson false rest := by
  cases missing : value.isNull with
  | true =>
      simp [entriesToJson, Accepted.toJson, keptMember, missing]
  | false =>
      simp [entriesToJson, Accepted.toJson, keptMember, missing]

/-- What the public form of a transaction consists of. -/
theorem toJson_of_validate
    {given : Json}
    {record : Record}
    (taken : transactionRequest.validate given = .ok record) :
    ∃ (sender : String) (recipient data value : Json),
      recipient.IsTextOrNull ∧ data.IsTextOrNull ∧
        record.toJson false =
          .object (("from", .text sender) ::
            (keptMember "to" recipient ++ (keptMember "data" data ++
              keptMember "value" value))) := by
  unfold Model.validate at taken
  cases given with
  | object members =>
      cases all : allSome (acceptEach transactionRequest.fields members) with
      | none =>
          simp only [all] at taken
          cases taken
      | some entries =>
          simp only [all] at taken
          cases taken
          rcases acceptEach_cons_eq_some all with ⟨first, others, holdsSender, afterSender, rfl⟩
          rcases acceptEach_cons_eq_some afterSender with
            ⟨second, others, holdsRecipient, afterRecipient, rfl⟩
          rcases acceptEach_cons_eq_some afterRecipient with
            ⟨third, others, holdsData, afterData, rfl⟩
          rcases acceptEach_cons_eq_some afterData with ⟨fourth, others, holdsValue, done, rfl⟩
          cases done
          rcases holds_required_text holdsSender with ⟨sender, rfl⟩
          rcases holds_optional_text holdsRecipient with ⟨recipient, recipientText, rfl⟩
          rcases holds_optional_text holdsData with ⟨data, dataText, rfl⟩
          rcases holds_optional_integerOrText holdsValue with ⟨value, rfl⟩
          refine ⟨sender, recipient, data, value, recipientText, dataText, ?_⟩
          rw [Record.toJson, Accepted.toJson]
          simp only [entriesToJson_cons_plain]
          rw [entriesToJson, List.append_nil]
          rfl
  | _ =>
      cases taken

/-- A transaction that is taken in has texts where addresses and data stand. -/
theorem isTransaction_of_validate
    {given : Json}
    {record : Record}
    (taken : transactionRequest.validate given = .ok record) :
    (record.toJson false).IsTransaction := by
  rcases toJson_of_validate taken with
    ⟨sender, recipient, data, value, recipientText, dataText, whole⟩
  rcases find?_keptMembers recipient data value with ⟨toHeld, dataHeld, -⟩
  rw [whole]
  constructor
  · exact ⟨sender, rfl⟩
  · rw [← toHeld] at recipientText
    exact recipientText
  · rw [← dataHeld] at dataText
    exact dataText

end Holdings.Schema
