import LinearProgram.Problem.Basic

/-!
The operations on a problem as data, so that histories of a problem can be spoken of.

* `Problem.Operation`: one change that a caller may ask for.
* `Problem.Operation.run`: the change, its failure, and what the journal says.
* `Problem.after`: the problem after an operation; a failed one leaves it as it was.
-/

namespace LinearProgram

namespace Problem

/-- What may be changed in a row at once: its name, its bounds, and entries at its end. -/
structure RowChange where
  rename : Option String
  bounds : Option Bounds
  push : List Coefficient
  deriving DecidableEq

/-- The row after a change. -/
def RowChange.apply (change : RowChange) (row : Row) : Row where
  name := change.rename.getD row.name
  bounds := change.bounds.getD row.bounds
  entries := row.entries ++ change.push

/-- A change of a problem. -/
inductive Operation where
  /-- Add a row. -/
  | addRow (row : Row)
  /-- Add a column, refusing a name that is taken if `strict` is set. -/
  | addColumn (column : Column) (strict : Bool)
  /-- Replace the bounds of a row by a range. -/
  | setRowBounds (name : String) (min max : Binary64)
  /-- Fix a row to a value. -/
  | setRowBoundsExact (name : String) (value : Binary64)
  /-- Replace the bounds of a column by a range. -/
  | setColumnBounds (name : String) (min max : Binary64)
  /-- Fix a column to a value. -/
  | setColumnBoundsExact (name : String) (value : Binary64)
  /-- Change a row in place. -/
  | editRow (name : String) (change : RowChange)

/-- The changed problem, or why the change is refused. -/
def Operation.apply (p : Problem) : Operation → Except Error Problem
  | addRow row => p.addRow row
  | addColumn column strict => p.addColumn column strict
  | setRowBounds name min max => p.setRowBounds name (.ofRange min max)
  | setRowBoundsExact name value => p.setRowBounds name (.exact value)
  | setColumnBounds name min max => p.setColumnBounds name (.ofRange min max)
  | setColumnBoundsExact name value => p.setColumnBounds name (.exact value)
  | editRow name change => p.editRow name change.apply

/-- What the journal says about an operation. -/
def Operation.entries (p : Problem) : Operation → List Entry
  | addRow row => [p.additionEntry row]
  | _ => []

/-- An operation with its journal. -/
def Operation.run (p : Problem) (op : Operation) : Logged (Except Error Problem) :=
  ⟨op.apply p, op.entries p⟩

/-- The problem after an operation, which stays as it was if the operation fails. -/
def after (p : Problem) (op : Operation) : Problem :=
  match op.apply p with
  | .ok q => q
  | .error _ => p

end Problem

end LinearProgram
