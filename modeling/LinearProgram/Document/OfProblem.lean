import LinearProgram.Document.Basic

/-!
The document of a problem.

A row with free or two-sided bounds becomes an equation with a slack variable, and the range of that slack
variable carries the bounds. The slack variables are numbered from one in the order of their rows.

* `termOf?`: the term of a coefficient, none for zero.
* `constraintsFrom`, `slackRanges`: the constraints and the ranges of their slack variables.
* `Problem.writabilityFault?`: the first row or column whose bounds cannot be written.
* `Problem.document`: the document of a problem.
-/

namespace LinearProgram

/-- The term of a coefficient. Its factor is the integer part of the magnitude, and none if that is one. -/
def termOf? (column : String) (value : Binary64) : Option Term :=
  if value.equals .zero then none
  else
    let magnitude := value.abs
    some
      { negative := value.less .zero || value.isNan
        factor :=
          if magnitude.equals .one then none
          else some ⟨magnitude, magnitude.truncateWithin 0 greatestMagnitude⟩
        column }

/-- The terms of some coefficients in order. -/
def termsOf (cs : List Coefficient) : List Term := cs.filterMap fun c => termOf? c.column c.value

/-- Whether the bounds of a row are carried by a slack variable. -/
def Row.hasSlack (row : Row) : Bool := row.bounds.kind = .free || row.bounds.kind = .lowerUpper

/-- The relation of a row, given the number of the next slack variable. -/
def Row.relation (row : Row) (nextSlack : Nat) : Relation :=
  match row.bounds.kind with
  | .free | .lowerUpper => .slack nextSlack
  | .lower => .atLeast (.ofLower row.bounds.min)
  | .upper => .atMost (.ofUpper row.bounds.max)
  | .exact => .equals row.bounds.min

/-- The constraints of some rows, given the number of the next slack variable. -/
def constraintsFrom (nextSlack : Nat) : List Row → List Constraint
  | [] => []
  | row :: rows =>
    ⟨row.name, termsOf row.entries, row.relation nextSlack⟩
      :: constraintsFrom (if row.hasSlack then nextSlack + 1 else nextSlack) rows

/-- The name of a slack variable. -/
def slackName (number : Nat) : String := s!"~r_{number}"

/-- The range that some bounds give to a variable. -/
def Bounds.range (b : Bounds) (name : String) : Range :=
  ⟨name, .ofLower b.min, .ofUpper b.max⟩

/-- The ranges of the slack variables of some rows. -/
def slackRanges (rows : List Row) : List Range :=
  (rows.filter Row.hasSlack).zipIdx.map fun (row, i) => row.bounds.range (slackName (i + 1))

namespace Problem

/-- The first failure of exact bounds, of the rows or else of the columns. -/
def writabilityFault? (p : Problem) : Option Error :=
  let fault := fun (name : String) (bounds : Bounds) =>
    bounds.exactFault?.map fun f => Error.invalidBounds name f.message
  (p.rows.findSome? fun row => fault row.name row.bounds)
    <|> p.columns.findSome? fun column => fault column.name column.bounds

/-- The sections of a problem. -/
def sections (p : Problem) : Document where
  title := p.name
  direction := p.direction
  objective := p.columns.filterMap fun column => termOf? column.name column.coefficient
  constraints := constraintsFrom 1 p.rows
  ranges := slackRanges p.rows ++ p.columns.map fun column => column.bounds.range column.name
  generals := p.columns.map Column.name
  binaries := (p.columns.filter fun column => column.kind = .binary).map Column.name

/-- The document of a problem. It fails exactly on exact bounds that cannot be written. -/
def document (p : Problem) : Except Error Document :=
  match p.writabilityFault? with
  | some e => .error e
  | none => .ok p.sections

end Problem

end LinearProgram
