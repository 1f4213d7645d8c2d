import LinearProgram.Report.Reader

/-!
Reading the report in which solutions are kept.

* `canonicalReader`: the reader of the text that `Solution.report` writes.
-/

namespace LinearProgram

/-- What is known of a kept report: the solution so far, whether a status has been seen, and whether the
table of values has begun. -/
structure CanonicalState where
  solution : Solution
  seenStatus : Bool
  inTable : Bool
  deriving DecidableEq

namespace CanonicalState

/-- The state before the first line. -/
def start : CanonicalState := ⟨.none, false, false⟩

/-- A line before the table. -/
def header (s : CanonicalState) (keyword : String) (fields : List String) :
    Except LineFault CanonicalState :=
  match keyword with
  | "Rows:" => do
    return { s with solution := { s.solution with rowCount := ← countField fields 1 } }
  | "Columns:" => do
    return { s with solution := { s.solution with columnCount := ← countField fields 1 } }
  | "Non-zeros:" => do
    return { s with solution := { s.solution with nonzeroCount := ← countField fields 1 } }
  | "Status:" => do
    return { s with
      solution := { s.solution with status := ← readField statusForm fields 1 }
      seenStatus := true }
  | "Objective:" => do
    return { s with solution := { s.solution with objective := ← realField fields 1 } }
  | "Column" => .ok { s with inTable := true }
  | _ => .ok s

/-- A line, by its fields. In the table every line with a field is a name and its value. -/
def line (s : CanonicalState) (fields : List String) : Except LineFault CanonicalState :=
  match fields with
  | [] => .ok s
  | keyword :: _ =>
    if s.inTable then do
      return { s with solution := s.solution.assign keyword (← realField fields 1) }
    else s.header keyword fields

/-- The end of the report. -/
def finish (s : CanonicalState) : Except String Solution :=
  if s.seenStatus && s.inTable then .ok s.solution else .error "missing status or column table"

end CanonicalState

/-- The reader of kept solutions. -/
def canonicalReader : ReportReader CanonicalState where
  solver := "solution report"
  start := .start
  step s text := (s.line (fields text)).map .more
  finish := CanonicalState.finish

end LinearProgram
