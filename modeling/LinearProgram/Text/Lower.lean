import LinearProgram.Text.Blank
import LinearProgram.Text.LetterCase

/-!
Lower-casing of text by the rules of Unicode.

Most characters have a lower-case form that does not depend on their place. Two do not follow that rule:
capital I with a dot gives two characters, and capital sigma has a form of its own at the end of a word.

* `lowerOne`, `upperOne`: the lower-case form of a character by itself, and back.
* `endsWord`: whether a capital sigma between two texts stands at the end of a word.
* `lower`: the lower-case form of a text.
-/

namespace LinearProgram

/-- The lower-case form of a character outside its context. -/
def lowerOne (c : Char) : List Char :=
  if c = 'İ' then ['i', '\u0307']
  else
    match lowerRuns.find? fun r =>
      decide (r.first ≤ c.toNat) && decide (c.toNat ≤ r.last) && (c.toNat - r.first) % r.stride == 0 with
    | some r => [Char.ofNat ((c.toNat : Int) + r.shift).toNat]
    | none => [c]

/-- The first character that has a character for its lower-case form, if there is one. -/
def upperOne (c : Char) : Char :=
  let source (r : LowerRun) : Nat := ((c.toNat : Int) - r.shift).toNat
  match lowerRuns.find? fun r =>
      decide (r.first ≤ source r) && decide (source r ≤ r.last) && (source r - r.first) % r.stride == 0 with
  | some r => Char.ofNat (source r)
  | none => c

/-- Whether the first character that is not case-ignorable has a case. -/
def casedAhead (s : List Char) : Bool :=
  match s.find? fun c => !inRanges caseIgnorableRanges c.toNat with
  | some c => inRanges casedRanges c.toNat
  | none => false

/-- Whether a letter with the given text before it, in reverse order, and after it ends a word. -/
def endsWord (before after : List Char) : Bool := casedAhead before && !casedAhead after

/-- The lower-case form of a text that follows `before`, which is given in reverse order. -/
def lowerAfter (before : List Char) : List Char → List Char
  | [] => []
  | c :: cs =>
    (if c = 'Σ' then [if endsWord before cs then 'ς' else 'σ'] else lowerOne c)
      ++ lowerAfter (c :: before) cs

/-- The lower-case form of a text. -/
def lower (s : String) : String := String.ofList (lowerAfter [] s.toList)

end LinearProgram
