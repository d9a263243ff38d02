import Holdings.Text.Casing

/-!
# Lower-casing

Every capital becomes its small letter.  Two characters have rules of their
own: the dotted capital I becomes an i with a combining dot, and a capital
sigma that ends a word becomes the final sigma.
-/

namespace Holdings.Text

/-- The small letter of a capital; any other character is its own. -/
def lowerChar
    (character : Char) :
    Char :=
  if character.toNat < 128 then
    character.toLower
  else
    match capitalRuns.find? fun run => run.holds character with
    | some run => Char.ofNat ((character.toNat : Int) + run.distance).toNat
    | none => character

/-- Whether the nearest character that case rules see is a letter with case. -/
def seesCased
    (characters : List Char) :
    Bool :=
  match characters.dropWhile isCaseIgnorable with
  | [] => false
  | nearest :: _ => isCased nearest

/-- Lower-cases what follows a text whose characters are given backwards. -/
def lowerAfter
    (before : List Char) :
    List Char → List Char
  | [] => []
  | character :: after =>
    let lowered :=
      if character = 'Σ' then
        if seesCased before && !seesCased after then ['ς'] else ['σ']
      else if character = 'İ' then
        ['i', '\u0307']
      else
        [lowerChar character]
    lowered ++ lowerAfter (character :: before) after

/-- The text with every capital made small. -/
def lowercase
    (text : String) :
    String :=
  String.ofList (lowerAfter [] text.toList)

@[simp]
theorem lowercase_empty :
    lowercase "" = "" := by
  simp [lowercase, lowerAfter]

end Holdings.Text
