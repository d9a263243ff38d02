/-!
# Ranges of characters

A property of characters is held as a list of closed ranges of code points.
Membership is the only thing that is asked of such a table.
-/

namespace Holdings.Text

/-- The characters whose code points lie between two bounds, both included. -/
structure CodeRange where
  first : Nat
  last : Nat
deriving DecidableEq, Repr

/-- Whether the range holds the character. -/
def CodeRange.holds
    (range : CodeRange)
    (character : Char) :
    Bool :=
  range.first ≤ character.toNat && character.toNat ≤ range.last

theorem CodeRange.holds_iff
    (range : CodeRange)
    (character : Char) :
    range.holds character = true ↔
      range.first ≤ character.toNat ∧ character.toNat ≤ range.last := by
  simp [CodeRange.holds]

/-- Whether some range of the table holds the character. -/
def inTable
    (table : List CodeRange)
    (character : Char) :
    Bool :=
  table.any fun range => range.holds character

@[simp]
theorem inTable_nil
    (character : Char) :
    inTable [] character = false :=
  rfl

@[simp]
theorem inTable_cons
    (range : CodeRange)
    (table : List CodeRange)
    (character : Char) :
    inTable (range :: table) character =
      (range.holds character || inTable table character) :=
  rfl

end Holdings.Text
