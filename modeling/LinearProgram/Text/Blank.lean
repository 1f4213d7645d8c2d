/-!
Blank characters, and the fields of a text between them.

* `isBlank`: the white space of Unicode, 25 code points.
* `pieces`: a list cut at every element that satisfies a test.
* `fields`: the non-empty pieces of a text between blanks.
* `trimStart`, `trimEnd`, `trim`: a text without the blanks at its ends.
* `contains`: whether a text has a given part.
-/

namespace LinearProgram

/-! ### Blank characters -/

/-- Closed ranges of the blank code points, ascending and apart. -/
def blankRanges : List (Nat × Nat) :=
  [(0x09, 0x0D), (0x20, 0x20), (0x85, 0x85), (0xA0, 0xA0), (0x1680, 0x1680), (0x2000, 0x200A),
   (0x2028, 0x2029), (0x202F, 0x202F), (0x205F, 0x205F), (0x3000, 0x3000)]

/-- Whether a number lies in one of some closed ranges. -/
def inRanges (ranges : List (Nat × Nat)) (n : Nat) : Bool :=
  ranges.any fun r => decide (r.1 ≤ n) && decide (n ≤ r.2)

/-- Whether a character is white space. -/
def isBlank (c : Char) : Bool := inRanges blankRanges c.toNat

/-! ### Pieces and fields -/

/-- The parts of a list between the elements that satisfy `cut`, empty parts included. -/
def pieces {α : Type} (cut : α → Bool) : List α → List (List α)
  | [] => [[]]
  | a :: as =>
    if cut a then [] :: pieces cut as
    else
      match pieces cut as with
      | [] => [[a]]
      | p :: ps => (a :: p) :: ps

/-- The fields of a text: its parts between blanks, neighbouring blanks taken together. -/
def fieldsOf (s : List Char) : List (List Char) := (pieces isBlank s).filter fun p => !p.isEmpty

/-- The fields of a text as strings. -/
def fields (s : String) : List String := (fieldsOf s.toList).map String.ofList

/-! ### Blanks at the ends -/

/-- A text without its leading blanks. -/
def trimStart (s : List Char) : List Char := s.dropWhile isBlank

/-- A text without its trailing blanks. -/
def trimEnd (s : List Char) : List Char := (s.reverse.dropWhile isBlank).reverse

/-- A text without blanks at either end. -/
def trim (s : List Char) : List Char := trimEnd (trimStart s)

/-! ### Parts of a text -/

/-- Whether `part` occurs in a text as consecutive characters. -/
def containsChars (part : List Char) : List Char → Bool
  | [] => part.isEmpty
  | c :: cs => part.isPrefixOf (c :: cs) || containsChars part cs

/-- Whether `part` occurs in a string. -/
def contains (s part : String) : Bool := containsChars part.toList s.toList

/-- Whether a string begins with `start`. -/
def beginsWith (s start : String) : Bool := start.toList.isPrefixOf s.toList

/-- Whether two texts agree up to the case of ASCII letters. -/
def sameIgnoringCase (s t : String) : Bool := s.toList.map Char.toLower = t.toList.map Char.toLower

end LinearProgram
