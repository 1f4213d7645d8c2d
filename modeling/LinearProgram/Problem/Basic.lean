import LinearProgram.Bounds

/-!
Linear problems: columns, rows and the direction in which the objective is sought.

* `Problem`: a name, a direction, columns in index order and rows in order of arrival.
* `Problem.addRow`, `Problem.addColumn`: new members, names permitting.
* `Problem.rowNamed`, `Problem.rowAt`, `Problem.columnNamed`, `Problem.columnAt`: look-ups.
* `Problem.editRow`, `Problem.editColumn`: a change of the first member of a name.
-/

namespace LinearProgram

/-! ### Members -/

/-- The direction in which the objective is sought. -/
inductive Direction where
  | minimize
  | maximize
  deriving DecidableEq

instance : Inhabited Direction := ⟨.minimize⟩

/-- The name of a direction. -/
def Direction.name : Direction → String
  | minimize => "Minimize"
  | maximize => "Maximize"

/-- The values that a column may take. -/
inductive ValueKind where
  /-- Integers. -/
  | integer
  /-- All numbers. -/
  | continuous
  /-- Zero and one. -/
  | binary
  deriving DecidableEq

instance : Inhabited ValueKind := ⟨.integer⟩

/-- A coefficient of a row: the column it belongs to and its value. -/
structure Coefficient where
  column : String
  value : Binary64
  deriving DecidableEq

namespace Coefficient

/-- The coefficient of a column for which no value is given. -/
def unit (column : String) : Coefficient := ⟨column, .one⟩

end Coefficient

/-- A decision variable and its coefficient in the objective. -/
structure Column where
  name : String
  coefficient : Binary64
  bounds : Bounds
  kind : ValueKind
  deriving DecidableEq

namespace Column

/-- An integer column. -/
def new (name : String) (bounds : Bounds) (coefficient : Binary64) : Column :=
  ⟨name, coefficient, bounds, .integer⟩

/-- The column with other allowed values. -/
def withKind (c : Column) (kind : ValueKind) : Column := { c with kind }

end Column

/-- A constraint on a weighted sum of columns. -/
structure Row where
  name : String
  bounds : Bounds
  entries : List Coefficient
  deriving DecidableEq

/-! ### Problems -/

/-- A linear problem. -/
structure Problem where
  name : String
  direction : Direction
  columns : List Column
  rows : List Row
  deriving DecidableEq

namespace Problem

/-- A problem without columns and rows. -/
def new (name : String) (direction : Direction) : Problem := ⟨name, direction, [], []⟩

/-- The failed look-up of a row. -/
def noRow (name : String) : Error := .notFound "row" name

/-- The failed look-up of a column. -/
def noColumn (name : String) : Error := .notFound "column" name

/-- Add a row at the end; its name must be new. -/
def addRow (p : Problem) (row : Row) : Except Error Problem :=
  if p.rows.any fun other => other.name = row.name then .error (.duplicateName "row" row.name)
  else .ok { p with rows := p.rows ++ [row] }

/-- What the journal says about adding a row, whether or not it is accepted. -/
def additionEntry (p : Problem) (row : Row) : Entry :=
  .debug s!"{p.name}: adding row '{row.name}' to existing {p.rows.length}"

/-- Add a column at the end; its name must be new if `strict` is set. -/
def addColumn (p : Problem) (column : Column) (strict : Bool) : Except Error Problem :=
  if strict && p.columns.any fun other => other.name = column.name then
    .error (.duplicateName "column" column.name)
  else .ok { p with columns := p.columns ++ [column] }

/-! ### Look-ups -/

/-- A value, or the failure that stands for its absence. -/
def found {α : Type} (absent : Error) : Option α → Except Error α
  | some a => .ok a
  | none => .error absent

/-- The first row of a name. -/
def rowNamed (p : Problem) (name : String) : Except Error Row :=
  found (noRow name) (p.rows.find? fun row => row.name = name)

/-- The first column of a name. -/
def columnNamed (p : Problem) (name : String) : Except Error Column :=
  found (noColumn name) (p.columns.find? fun column => column.name = name)

/-- The member of a list at the exact integer `idx + offset`. -/
def memberAt? {α : Type} (members : List α) (idx : Nat) (offset : Int) : Option α :=
  match (idx : Int) + offset with
  | .ofNat i => members[i]?
  | .negSucc _ => none

/-- How a place is named in a failed look-up. -/
def placeName (idx : Nat) (offset : Int) : String := s!"#{idx} (offset {offset})"

/-- The row at `idx + offset`; an offset of `-1` serves numbering from one. -/
def rowAt (p : Problem) (idx : Nat) (offset : Int) : Except Error Row :=
  found (noRow (placeName idx offset)) (memberAt? p.rows idx offset)

/-- The column at `idx + offset`; an offset of `-1` serves numbering from one. -/
def columnAt (p : Problem) (idx : Nat) (offset : Int) : Except Error Column :=
  found (noColumn (placeName idx offset)) (memberAt? p.columns idx offset)

/-! ### Changes -/

/-- Change the first member that satisfies a test, if there is one. -/
def changeFirst? {α : Type} (test : α → Bool) (change : α → α) : List α → Option (List α)
  | [] => none
  | a :: as =>
    if test a then some (change a :: as) else (changeFirst? test change as).map (a :: ·)

/-- Change the first row of a name in any way, its name included. -/
def editRow (p : Problem) (name : String) (change : Row → Row) : Except Error Problem :=
  found (noRow name)
    ((changeFirst? (fun row => row.name = name) change p.rows).map fun rows => { p with rows })

/-- Change the first column of a name. -/
def editColumn (p : Problem) (name : String) (change : Column → Column) : Except Error Problem :=
  found (noColumn name)
    ((changeFirst? (fun column => column.name = name) change p.columns).map
      fun columns => { p with columns })

/-- Replace the bounds of the first row of a name. -/
def setRowBounds (p : Problem) (name : String) (bounds : Bounds) : Except Error Problem :=
  p.editRow name fun row => { row with bounds }

/-- Replace the bounds of the first column of a name. -/
def setColumnBounds (p : Problem) (name : String) (bounds : Bounds) : Except Error Problem :=
  p.editColumn name fun column => { column with bounds }

end Problem

end LinearProgram
