import LinearProgram.Document.OfProblem

/-!
The text of a document.

The contents of the sections stand behind an indent, and long sums are broken before every twelfth term.

* `termsPerLine`: how many terms share a line.
* `termsChars`: a sum.
* `rangeChars`: a range, on one line.
* `Document.chars`: the whole text.
* `Problem.lpText`: the text of a problem with its warnings.
-/

namespace LinearProgram

/-- A line break stands before every term whose number is a multiple of this. -/
def termsPerLine : Nat := 12

/-- A term: its sign, its factor unless it is one, and its column. -/
def Term.chars (t : Term) : List Char :=
  (if t.negative then " -".toList else " +".toList)
    ++ (match t.factor with
      | none => []
      | some r => ' ' :: integerChars r.written)
    ++ ' ' :: t.column.toList

/-- A sum whose first term has the number `number + 1`. -/
def termsCharsFrom (indent : List Char) (number : Nat) : List Term → List Char
  | [] => []
  | t :: ts =>
    (if (number + 1) % termsPerLine = 0 then '\n' :: indent else [])
      ++ t.chars ++ termsCharsFrom indent (number + 1) ts

/-- A sum of terms. -/
def termsChars (indent : List Char) (ts : List Term) : List Char := termsCharsFrom indent 0 ts

/-- What stands behind the sum of a constraint. -/
def Relation.chars : Relation → List Char
  | slack number => " - ".toList ++ (slackName number).toList ++ " = 0".toList
  | atLeast limit => " >= ".toList ++ limit.lowerChars
  | atMost limit => " <= ".toList ++ limit.upperChars
  | equals value => " = ".toList ++ value.chars

/-- A range, from its lower to its upper limit. -/
def rangeChars (r : Range) : List Char :=
  r.lower.lowerChars ++ " <= ".toList ++ r.name.toList ++ " <= ".toList ++ r.upper.upperChars

/-- The text of bounds of a variable. -/
def Bounds.rangeText (b : Bounds) (name : String) : String := String.ofList (rangeChars (b.range name))

/-- A line behind the indent. -/
def lineChars (indent content : List Char) : List Char := indent ++ content ++ ['\n']

/-- A section that lists names, one a line. -/
def namesChars (indent : List Char) (heading : String) (names : List String) : List Char :=
  lineChars indent heading.toList
    ++ names.flatMap (fun name => lineChars indent (' ' :: name.toList)) ++ ['\n']

namespace Document

/-- The text of a document whose sections stand behind `width` blanks. -/
def chars (d : Document) (width : Nat) : List Char :=
  let indent := List.replicate width ' '
  lineChars [] ("\\* Problem: ".toList ++ d.title.toList ++ " *\\".toList)
    ++ lineChars indent d.direction.name.toList
    ++ lineChars indent (" obj:".toList ++ termsChars indent d.objective) ++ ['\n']
    ++ lineChars indent "Subject To".toList
    ++ d.constraints.flatMap (fun c =>
        lineChars indent
          (' ' :: c.name.toList ++ ':' :: termsChars indent c.terms ++ c.relation.chars))
    ++ ['\n']
    ++ lineChars indent "Bounds".toList
    ++ d.ranges.flatMap (fun r => lineChars indent (' ' :: rangeChars r))
    ++ ['\n']
    ++ namesChars indent "Generals" d.generals
    ++ (if d.binaries.isEmpty then [] else namesChars indent "Binaries" d.binaries)
    ++ lineChars [] "End".toList

/-- The text of a document as a string. -/
def text (d : Document) (width : Nat) : String := String.ofList (d.chars width)

end Document

/-- The LP text of a problem behind an indent, with the warnings about numbers that it alters. -/
def Problem.lpText (p : Problem) (width : Nat) : Logged (Except Error String) :=
  match p.document with
  | .error e => ⟨.error e, []⟩
  | .ok d => ⟨.ok (d.text width), d.warnings⟩

end LinearProgram
