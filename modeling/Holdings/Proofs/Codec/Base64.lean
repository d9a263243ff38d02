import Holdings.Codec.Base64

/-!
# Writing base 64

Three bytes are written with four digits of six bits; a group of one or two bytes
is filled up with padding.  What is written is read back.
-/

namespace Holdings.Base64

/-- The digit of a value. -/
def digit
    (value : Nat) :
    Char :=
  alphabet.getD value 'A'

/-- The digits of a byte string. -/
def encodeDigits : Bytes → List Char
  | [] => []
  | [first] =>
    [digit (first.toNat / 4), digit (first.toNat % 4 * 16), '=', '=']
  | [first, second] =>
    [digit (first.toNat / 4), digit (first.toNat % 4 * 16 + second.toNat / 16),
      digit (second.toNat % 16 * 4), '=']
  | first :: second :: third :: rest =>
    digit (first.toNat / 4) :: digit (first.toNat % 4 * 16 + second.toNat / 16) ::
      digit (second.toNat % 16 * 4 + third.toNat / 64) :: digit (third.toNat % 64) ::
        encodeDigits rest

/-- The text of a byte string. -/
def encode
    (bytes : Bytes) :
    String :=
  String.ofList (encodeDigits bytes)

/-! ## Digits -/

/-- What a reader knows of a digit: its value, that it pads nothing, and that it is ASCII. -/
theorem digit_spec :
    ∀ value < 64,
      digitValue? (digit value) = some value ∧ digit value ≠ '=' ∧ (digit value).toNat < 128 := by
  decide +kernel

theorem digitValue?_digit
    {value : Nat}
    (isDigit : value < 64) :
    digitValue? (digit value) = some value :=
  (digit_spec value isDigit).1

theorem digit_ne_padding
    {value : Nat}
    (isDigit : value < 64) :
    digit value ≠ '=' :=
  (digit_spec value isDigit).2.1

theorem toNat_digit_lt
    {value : Nat}
    (isDigit : value < 64) :
    (digit value).toNat < 128 :=
  (digit_spec value isDigit).2.2

/-! ## One digit after the other -/

variable {value left padding : Nat}

theorem decodeFrom_first
    (isDigit : value < 64)
    (rest : List Char) :
    decodeFrom .start (digit value :: rest) = decodeFrom ⟨1, value, 0⟩ rest := by
  rw [decodeFrom, if_neg (digit_ne_padding isDigit), digitValue?_digit isDigit]
  rfl

theorem decodeFrom_second
    (isDigit : value < 64)
    (rest : List Char) :
    decodeFrom ⟨1, left, padding⟩ (digit value :: rest) =
      (decodeFrom ⟨2, value % 16, 0⟩ rest).map (UInt8.ofNat (4 * left + value / 16) :: ·) := by
  rw [decodeFrom, if_neg (digit_ne_padding isDigit), digitValue?_digit isDigit]
  rfl

theorem decodeFrom_third
    (isDigit : value < 64)
    (rest : List Char) :
    decodeFrom ⟨2, left, padding⟩ (digit value :: rest) =
      (decodeFrom ⟨3, value % 4, 0⟩ rest).map (UInt8.ofNat (16 * left + value / 4) :: ·) := by
  rw [decodeFrom, if_neg (digit_ne_padding isDigit), digitValue?_digit isDigit]
  rfl

theorem decodeFrom_fourth
    (isDigit : value < 64)
    (rest : List Char) :
    decodeFrom ⟨3, left, padding⟩ (digit value :: rest) =
      (decodeFrom .start rest).map (UInt8.ofNat (64 * left + value) :: ·) := by
  rw [decodeFrom, if_neg (digit_ne_padding isDigit), digitValue?_digit isDigit]
  rfl

theorem ofNat_eq
    {byte : UInt8}
    (same : value = byte.toNat) :
    UInt8.ofNat value = byte := by
  rw [same, UInt8.ofNat_toNat]

/-! ## Whole texts -/

theorem decodeFrom_encodeDigits
    (bytes : Bytes) :
    decodeFrom .start (encodeDigits bytes) = .ok bytes := by
  induction bytes using encodeDigits.induct with
  | case1 =>
      rfl
  | case2 first =>
      have one := first.toNat_lt
      have byte : UInt8.ofNat (4 * (first.toNat / 4) + first.toNat % 4 * 16 / 16) = first :=
        ofNat_eq (by omega)
      rw [encodeDigits, decodeFrom_first (by omega), decodeFrom_second (by omega), byte]
      rfl
  | case3 first second =>
      have one := first.toNat_lt
      have two := second.toNat_lt
      have byte :
          UInt8.ofNat (4 * (first.toNat / 4) + (first.toNat % 4 * 16 + second.toNat / 16) / 16) =
            first :=
        ofNat_eq (by omega)
      have nextByte :
          UInt8.ofNat (16 * ((first.toNat % 4 * 16 + second.toNat / 16) % 16) +
              second.toNat % 16 * 4 / 4) =
            second :=
        ofNat_eq (by omega)
      rw [encodeDigits, decodeFrom_first (by omega), decodeFrom_second (by omega),
        decodeFrom_third (by omega), byte, nextByte]
      rfl
  | case4 first second third rest induction =>
      have one := first.toNat_lt
      have two := second.toNat_lt
      have three := third.toNat_lt
      have byte :
          UInt8.ofNat (4 * (first.toNat / 4) + (first.toNat % 4 * 16 + second.toNat / 16) / 16) =
            first :=
        ofNat_eq (by omega)
      have nextByte :
          UInt8.ofNat (16 * ((first.toNat % 4 * 16 + second.toNat / 16) % 16) +
              (second.toNat % 16 * 4 + third.toNat / 64) / 4) =
            second :=
        ofNat_eq (by omega)
      have lastByte :
          UInt8.ofNat (64 * ((second.toNat % 16 * 4 + third.toNat / 64) % 4) +
              third.toNat % 64) =
            third :=
        ofNat_eq (by omega)
      rw [encodeDigits, decodeFrom_first (by omega), decodeFrom_second (by omega),
        decodeFrom_third (by omega), decodeFrom_fourth (by omega), byte, nextByte, lastByte,
        induction]
      rfl

theorem toNat_lt_of_mem_encodeDigits
    (bytes : Bytes) :
    ∀ character ∈ encodeDigits bytes, character.toNat < 128 := by
  have padding : ('=').toNat < 128 := by decide
  induction bytes using encodeDigits.induct with
  | case1 =>
      simp [encodeDigits]
  | case2 first =>
      have one := first.toNat_lt
      simp only [encodeDigits, List.forall_mem_cons]
      exact ⟨toNat_digit_lt (by omega), toNat_digit_lt (by omega), padding, padding, by simp⟩
  | case3 first second =>
      have one := first.toNat_lt
      have two := second.toNat_lt
      simp only [encodeDigits, List.forall_mem_cons]
      exact ⟨toNat_digit_lt (by omega), toNat_digit_lt (by omega), toNat_digit_lt (by omega),
        padding, by simp⟩
  | case4 first second third rest induction =>
      have one := first.toNat_lt
      have two := second.toNat_lt
      have three := third.toNat_lt
      simp only [encodeDigits, List.forall_mem_cons]
      exact ⟨toNat_digit_lt (by omega), toNat_digit_lt (by omega), toNat_digit_lt (by omega),
        toNat_digit_lt (by omega), induction⟩

/-- Every byte string is read back from its text. -/
theorem decode_encode
    (bytes : Bytes) :
    decode (encode bytes) = .ok bytes := by
  have ascii : (encodeDigits bytes).all (fun character => character.toNat < 128) = true := by
    simpa using toNat_lt_of_mem_encodeDigits bytes
  rw [decode, encode, String.toList_ofList, if_pos ascii, decodeFrom_encodeDigits]

end Holdings.Base64
