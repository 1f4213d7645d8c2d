import LinearProgram.Error
import LinearProgram.Journal
import LinearProgram.Number.Shortest

/-!
Bounds of rows and columns, and how their ends are written.

The LP text holds whole numbers only. An end below the smallest or above the largest 32-bit integer is
written as no limit at all, and any other end as its integer part.

* `Bounds`, `BoundKind`: two ends and what they mean; `Bounds.ofRange` finds the kind from the ends.
* `Rounded`: a number with the integer that is written for it, and the warning if the two differ.
* `Limit`: an end as it is written.
* `Bounds.exactFault?`: why exact bounds cannot be written.
-/

namespace LinearProgram

/-! ### Bounds -/

/-- How the two ends of bounds are to be read. -/
inductive BoundKind where
  /-- No bound at all. -/
  | free
  /-- Only the lower end applies. -/
  | lower
  /-- Only the upper end applies. -/
  | upper
  /-- Both ends apply. -/
  | lowerUpper
  /-- Both ends are the one allowed value. -/
  | exact
  deriving DecidableEq

/-- Bounds of a row or a column. An end that does not apply is the infinity on its side. -/
structure Bounds where
  min : Binary64
  max : Binary64
  kind : BoundKind
  deriving DecidableEq

namespace Bounds

/-- No bound in either direction. -/
def free : Bounds := ⟨.negInf, .posInf, .free⟩

/-- At least `min`. -/
def lower (min : Binary64) : Bounds := ⟨min, .posInf, .lower⟩

/-- At most `max`. -/
def upper (max : Binary64) : Bounds := ⟨.negInf, max, .upper⟩

/-- Between `min` and `max`. -/
def lowerUpper (min max : Binary64) : Bounds := ⟨min, max, .lowerUpper⟩

/-- Exactly `value`. -/
def exact (value : Binary64) : Bounds := ⟨value, value, .exact⟩

/-- The kind of bounds with the given ends: an end applies if it is finite, and two equal ends are exact. -/
def kindOfRange (min max : Binary64) : BoundKind :=
  match min.isFinite, max.isFinite with
  | false, false => .free
  | true, false => .lower
  | false, true => .upper
  | true, true => if min.equals max then .exact else .lowerUpper

/-- Bounds whose kind follows from their ends. -/
def ofRange (min max : Binary64) : Bounds := ⟨min, max, kindOfRange min max⟩

instance : Inhabited Bounds := ⟨free⟩

end Bounds

/-! ### Whole numbers in place of numbers -/

/-- The digits of an integer, with a minus sign if it is negative. -/
def integerChars (n : Int) : List Char :=
  if n < 0 then '-' :: Decimal.digitChars n.natAbs else Decimal.digitChars n.natAbs

/-- A number together with the integer that is written for it. -/
structure Rounded where
  value : Binary64
  written : Int
  deriving DecidableEq

/-- Whether the integer, taken as a number, is the number it is written for. -/
def Rounded.isFaithful (r : Rounded) : Bool := (Binary64.ofInt r.written).equals r.value

/-- The smallest integer written for an end. -/
def leastInteger : Int := -2147483648

/-- The largest integer written for an end. -/
def greatestInteger : Int := 2147483647

/-- The largest integer written for a coefficient. -/
def greatestMagnitude : Int := 18446744073709551615

/-! ### Written ends -/

/-- An end of a range as it is written. -/
inductive Limit where
  /-- There is no limit on this side. -/
  | none
  /-- The limit is a whole number. -/
  | whole (r : Rounded)
  deriving DecidableEq

namespace Limit

/-- An end written as its integer part. -/
def ofEnd (value : Binary64) : Limit :=
  .whole ⟨value, value.truncateWithin leastInteger greatestInteger⟩

/-- A lower end as it is written. -/
def ofLower (min : Binary64) : Limit :=
  if min.less (.ofInt leastInteger) then .none else ofEnd min

/-- An upper end as it is written. -/
def ofUpper (max : Binary64) : Limit :=
  if (Binary64.ofInt greatestInteger).less max then .none else ofEnd max

/-- The text of a limit, given the sign of the infinity that stands for no limit. -/
def chars (sign : Char) : Limit → List Char
  | none => sign :: " inf".toList
  | whole r => integerChars r.written

/-- The text of a lower limit. -/
def lowerChars (l : Limit) : List Char := l.chars '-'

/-- The text of an upper limit. -/
def upperChars (l : Limit) : List Char := l.chars '+'

/-- The warning about a limit that is not the end it is written for. -/
def warnings : Limit → List Entry
  | none => []
  | whole r =>
    if r.isFaithful then []
    else [.warn s!"lp_format: bound {r.value.text} rendered as {r.written}"]

end Limit

/-! ### Exact bounds -/

/-- Why exact bounds cannot be written. -/
inductive BoundsFault where
  /-- The value does not lie strictly within the integers that are written. -/
  | unwritable (value : Binary64)
  /-- The two ends differ. -/
  | differing (min max : Binary64)
  deriving DecidableEq

/-- The wording of a fault of bounds. -/
def BoundsFault.message : BoundsFault → String
  | unwritable value => s!"exact bound {value.text} is +/- infinity"
  | differing min max => s!"exact bound with min {min.text} != max {max.text}"

/-- Whether a number lies strictly between the smallest and the largest written integer. -/
def isWritableExactly (value : Binary64) : Bool :=
  (Binary64.ofInt leastInteger).less value && value.less (.ofInt greatestInteger)

/-- The fault of exact bounds; bounds of another kind have none. -/
def Bounds.exactFault? (b : Bounds) : Option BoundsFault :=
  if b.kind = .exact then
    if !isWritableExactly b.min then some (.unwritable b.min)
    else if !b.min.equals b.max then some (.differing b.min b.max)
    else none
  else none

end LinearProgram
