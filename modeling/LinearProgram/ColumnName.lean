import LinearProgram.Error
import LinearProgram.Number.Natural
import LinearProgram.Number.Shortest

/-!
Names of columns by index: the letter `x` and the index.

* `columnName`: the name of an index.
* `columnIndex`: the index of a name.
-/

namespace LinearProgram

/-- The name of the column of an index. -/
def columnName (index : Nat) : String := String.ofList ('x' :: Decimal.digitChars index)

/-- The failure of a name that is no column name. -/
def badColumnName (name reason : String) : Error := .parse "column name" 0 name reason

/-- The index of the column of a name: behind the letter stand digits and nothing else, and the index is
no larger than the largest one. -/
def columnIndex (name : String) : Except Error Nat :=
  match name.toList with
  | 'x' :: c :: cs =>
    if (c :: cs).all isDigit then
      (readDigits maxIndex 0 (c :: cs)).mapError fun fault => badColumnName name fault.message
    else .error (badColumnName name "expected 'x' followed by a column index")
  | _ => .error (badColumnName name "expected 'x' followed by a column index")

end LinearProgram
