import Holdings.Evm.Envelope
import Holdings.Proofs.Outcome

/-!
# The faults of a node's envelopes

Whatever an envelope holds, the client of a node never takes it for a failure of
the transport: its faults are those of values that cannot be read, or of the
client itself.  And an envelope with an error comes to a fault in any case.
-/

namespace Holdings.Evm

open Outcome

/-! ## Words and parameters -/

theorem avoids_readWord
    (data : Bytes)
    (position : Nat) :
    Avoids .transport (readWord data position) := by
  unfold readWord
  dsimp only
  split
  · exact .ok _
  · exact .error (by decide)

theorem avoids_readWordNumber
    (data : Bytes)
    (position : Nat) :
    Avoids .transport (readWordNumber data position) := by
  apply (avoids_readWord data position).bind
  intro word
  exact .ok _

theorem avoids_checkPadding
    (padding : Bytes) :
    Avoids .transport (checkPadding padding) := by
  unfold checkPadding
  split
  · exact .ok _
  · exact .error (by decide)

theorem avoids_readSizedBytes
    (data : Bytes)
    (position : Nat) :
    Avoids .transport (readSizedBytes data position) := by
  apply (avoids_readWordNumber data position).bind
  intro length
  dsimp only
  split
  · exact .error (by decide)
  · split
    · exact .error (by decide)
    · apply (avoids_checkPadding _).bind
      intro _
      exact .ok _

theorem avoids_checkText
    (content : Bytes) :
    Avoids .transport (checkText content) := by
  unfold checkText
  split
  · exact .error (by simp [Fault.kind])
  · exact .ok _

theorem avoids_checkPointer
    (data : Bytes)
    (first behind position : Nat) :
    Avoids .transport (checkPointer data first behind position) := by
  apply (avoids_readWordNumber data position).bind
  intro distance
  dsimp only
  split
  · exact .error (by decide)
  · exact .ok _

theorem avoids_checkWords
    {check : Nat → Except Fault Unit}
    (each : ∀ position, Avoids .transport (check position))
    (count position : Nat) :
    Avoids .transport (checkWords check position count) := by
  induction count generalizing position with
  | zero =>
      exact .ok _
  | succ count induction =>
      apply (each position).bind
      intro _
      exact induction _

theorem avoids_check
    (data : Bytes)
    (parameter : Parameter)
    (position : Nat) :
    Avoids .transport (parameter.check data position) := by
  induction parameter generalizing position with
  | address =>
      apply (avoids_readWord data position).bind
      intro word
      exact avoids_checkPadding _
  | fixedBytes width =>
      apply (avoids_readWord data position).bind
      intro word
      exact avoids_checkPadding _
  | bytes =>
      apply (avoids_readSizedBytes data position).bind
      intro content
      exact .ok _
  | text =>
      apply (avoids_readSizedBytes data position).bind
      intro content
      exact avoids_checkText content
  | listOf item induction =>
      apply (avoids_readWordNumber data position).bind
      intro count
      dsimp only
      split
      · apply (avoids_checkWords (fun _ => avoids_checkPointer data _ _ _) count _).bind
        intro _
        apply avoids_checkWords
        intro word
        apply (avoids_readWordNumber data word).bind
        intro distance
        exact induction _
      · exact avoids_checkWords (fun _ => induction _) count _

theorem avoids_checkHeads
    (data : Bytes)
    (behind : Nat)
    (parameters : List Parameter)
    (position : Nat) :
    Avoids .transport (checkHeads data behind parameters position) := by
  induction parameters generalizing position with
  | nil =>
      exact .ok _
  | cons parameter rest induction =>
      rw [checkHeads]
      split
      · apply (avoids_checkPointer data _ _ _).bind
        intro _
        exact induction _
      · apply (avoids_check data parameter position).bind
        intro _
        exact induction _

theorem avoids_checkBodies
    (data : Bytes)
    (parameters : List Parameter)
    (position : Nat) :
    Avoids .transport (checkBodies data parameters position) := by
  induction parameters generalizing position with
  | nil =>
      exact .ok _
  | cons parameter rest induction =>
      rw [checkBodies]
      split
      · apply (avoids_readWordNumber data position).bind
        intro target
        apply (avoids_check data parameter target).bind
        intro _
        exact induction _
      · apply (avoids_check data parameter position).bind
        intro _
        exact induction _

theorem avoids_checkParameters
    (parameters : List Parameter)
    (data : Bytes) :
    Avoids .transport (checkParameters parameters data) := by
  apply (avoids_checkHeads data _ parameters 0).bind
  intro _
  exact avoids_checkBodies data parameters 0

/-! ## Reversals -/

theorem avoids_reasonPoints
    (data : String) :
    Avoids .transport (reasonPoints data) := by
  unfold reasonPoints
  dsimp only
  split
  · split
    · exact .ok _
    · exact .error (by simp [Fault.kind])
  · split
    · exact .ok _
    · exact .ok _

theorem avoids_checkReason
    (data : String) :
    Avoids .transport (checkReason data) := by
  apply (avoids_reasonPoints data).bind
  intro given
  split
  · exact .error (by simp [Fault.kind])
  · exact .ok _

theorem avoids_lookupBytes
    (written : String) :
    Avoids .transport (lookupBytes written) := by
  unfold lookupBytes
  dsimp only
  generalize (if (Text.points written).length % 2 = 0 then withoutMark written.toList
    else '0' :: withoutMark written.toList) = even
  split
  · exact .error (by simp [Fault.kind])
  · split
    · exact .ok _
    · exact .error (by decide)

theorem avoids_checkPanic
    (data : String) :
    Avoids .transport (checkPanic data) := by
  unfold checkPanic
  dsimp only
  split
  · exact .ok _
  · exact .error (by simp [Fault.kind])

theorem avoids_checkReversal
    (data : Json) :
    Avoids .transport (checkReversal data) := by
  unfold checkReversal
  split
  · split
    · exact avoids_checkReason _
    · split
      · apply (avoids_lookupBytes _).bind
        intro bytes
        exact avoids_checkParameters _ bytes
      · split
        · exact avoids_checkPanic _
        · exact .ok _
  · exact .ok _

/-! ## Envelopes -/

theorem kind_refusal_ne
    (method : String)
    (error : Json) :
    (refusal method error).kind ≠ .transport := by
  unfold refusal
  split
  · split
    · decide
    · rename_i fault reversed
      exact avoids_checkReversal _ fault reversed
  · decide

theorem kind_errorFault_ne
    (method : String)
    (params : List Json)
    (error : Json) :
    (errorFault method params error).kind ≠ .transport := by
  unfold errorFault
  split
  · split
    · decide
    · split
      · exact kind_refusal_ne method error
      · exact kind_refusal_ne method error
      · decide
  · decide

theorem avoids_lookup
    (value : Json)
    (name : String) :
    Avoids .transport (value.lookup name) := by
  cases value with
  | object members =>
      exact .ok _
  | _ =>
      exact .error (by decide)

theorem avoids_bytesOf
    (value : Json) :
    Avoids .transport (bytesOf value) := by
  unfold bytesOf
  split
  · split
    · exact .ok _
    · exact .error (by decide)
  · exact .ok _
  · split
    · exact .error (by decide)
    · split
      · exact .ok _
      · exact .error (by decide)
  · exact .error (by decide)

theorem avoids_checkExtraData
    (block : Json) :
    Avoids .transport (checkExtraData block) := by
  have limited (given : Json) :
      Avoids .transport (do
        let bytes ← bytesOf given
        if extraDataLimit < bytes.length then throw .badNodeResponse else return ()) := by
    apply (avoids_bytesOf given).bind
    intro bytes
    split
    · exact .error (by decide)
    · exact .ok _
  apply (avoids_lookup block _).bind
  intro given
  split
  · exact limited _
  · exact limited _
  · exact limited _
  · exact .ok _

theorem avoids_checkContent
    (method : String)
    (members : List (String × Json)) :
    Avoids .transport (checkContent method members) := by
  unfold checkContent
  dsimp only
  split
  · exact avoids_checkExtraData _
  · split
    · apply (avoids_lookup _ _).bind
      intro inner
      split
      · exact avoids_checkExtraData inner
      · exact .ok _
    · exact .ok _

theorem avoids_checkNotice
    (members : List (String × Json)) :
    Avoids .transport (checkNotice members) := by
  unfold checkNotice
  split
  · exact .ok _
  · exact .error (by decide)
  · exact .ok _

theorem avoids_notice?
    (members : List (String × Json)) :
    Avoids .transport (notice? members) := by
  unfold notice?
  dsimp only
  split
  · apply (avoids_lookup _ _).bind
    intro subscription
    apply (avoids_lookup _ _).bind
    intro result
    exact .ok _
  · exact .ok _

theorem avoids_checkSubscription
    (subscription : Json) :
    Avoids .transport (checkSubscription subscription) := by
  unfold checkSubscription
  split
  · exact .ok _
  · split
    · exact .ok _
    · exact .error (by decide)
  · split
    · exact .ok _
    · exact .error (by decide)
  · exact .error (by decide)

theorem avoids_checkNumbering
    (members : List (String × Json))
    (notice : Option (Json × Json)) :
    Avoids .transport (checkNumbering members notice) := by
  unfold checkNumbering
  dsimp only
  split
  · exact .error (by decide)
  · split
    · split
      · exact .ok _
      · exact .error (by decide)
    · split
      · exact avoids_checkSubscription _
      · exact .error (by decide)

theorem avoids_readNodeEnvelope
    (method : String)
    (params : List Json)
    (envelope : Json) :
    Avoids .transport (readNodeEnvelope method params envelope) := by
  unfold readNodeEnvelope
  split
  · apply (avoids_checkContent method _).bind
    intro _
    apply (avoids_checkNotice _).bind
    intro _
    apply (avoids_notice? _).bind
    intro notice
    apply (avoids_checkNumbering _ notice).bind
    intro _
    split
    · exact .ok _
    · exact .error (kind_errorFault_ne method params _)
    · exact .ok _
    · exact .error (by decide)
    · exact .error (by decide)
  · exact .error (by decide)

/-- An envelope with an error has no result for the client of a node. -/
theorem exists_fault_of_error
    (method : String)
    (params : List Json)
    {members : List (String × Json)}
    {error : Json}
    (found : Json.find? members "error" = some error) :
    ∃ fault, readNodeEnvelope method params (.object members) = .error fault := by
  cases read : readNodeEnvelope method params (.object members) with
  | error fault =>
      exact ⟨fault, rfl⟩
  | ok answer =>
      rw [readNodeEnvelope] at read
      rcases bind_eq_ok.1 read with ⟨_, -, noticed⟩
      rcases bind_eq_ok.1 noticed with ⟨_, -, numbered⟩
      rcases bind_eq_ok.1 numbered with ⟨notice, -, checked⟩
      rcases bind_eq_ok.1 checked with ⟨_, -, chosen⟩
      rw [found] at chosen
      split at chosen
      · rename_i missing _
        cases missing
      · cases chosen
      · rename_i missing _
        cases missing
      · cases chosen
      · cases chosen

end Holdings.Evm
