import LinearProgram.Report.Reader

/-!
Reading the report of glpsol.

The header runs up to the line of the objective. Tables of rows and of columns follow, and in the latter a
star marks the basic integer columns, whose values are taken.

* `glpkStatus`: the status that the words behind `Status:` name.
* `glpkReader`: the reader.
-/

namespace LinearProgram

/-- What is known of a report of glpsol: the solution so far, whether the header is still being read, and
whether a table of columns is. -/
structure GlpkState where
  solution : Solution
  inHeader : Bool
  inColumns : Bool
  deriving DecidableEq

/-- The status that some words name. A leading `INTEGER` only says what kind of solution it is. -/
def glpkStatus (words : List String) : Status :=
  let words := if words.head? = some "INTEGER" then words.tail else words
  match words.head? with
  | some "OPTIMAL" => .optimal
  | some "INFEASIBLE" => .infeasible
  | some "EMPTY" => .infeasible
  | some "UNBOUNDED" => .unbounded
  | _ => .unknown

namespace GlpkState

/-- The state before the first line. -/
def start : GlpkState := ⟨.none, true, false⟩

/-- A line of the header. -/
def header (s : GlpkState) (keyword : String) (fields : List String) : Except LineFault GlpkState :=
  match keyword with
  | "Rows:" => do
    return { s with solution := { s.solution with rowCount := ← countField fields 1 } }
  | "Columns:" => do
    return { s with solution := { s.solution with columnCount := ← countField fields 1 } }
  | "Non-zeros:" => do
    return { s with solution := { s.solution with nonzeroCount := ← countField fields 1 } }
  | "Status:" => .ok { s with solution := { s.solution with status := glpkStatus fields.tail } }
  | "Objective:" =>
    if 3 < fields.length then do
      return { s with
        solution := { s.solution with objective := ← realField fields 3 }
        inHeader := false }
    else .ok { s with inHeader := false }
  | _ => .ok s

/-- Whether a line lies in a table of columns: a heading says so for itself and for what follows. -/
def columnsAfter (inColumns : Bool) (fields : List String) : Bool :=
  match fields[1]? with
  | some "Row" => false
  | some "Column" => true
  | _ => inColumns

/-- A line after the header. -/
def body (s : GlpkState) (fields : List String) : Except LineFault GlpkState :=
  let s := { s with inColumns := columnsAfter s.inColumns fields }
  match fields with
  | _ :: name :: "*" :: _ :: _ :: _ =>
    if s.inColumns then do
      return { s with solution := s.solution.assign name (← realField fields 3) }
    else .ok s
  | _ => .ok s

/-- A line, by its fields. -/
def line (s : GlpkState) (fields : List String) : Except LineFault GlpkState :=
  match fields with
  | [] => .ok s
  | keyword :: _ => if s.inHeader then s.header keyword fields else s.body fields

/-- The end of the report. -/
def finish (s : GlpkState) : Except String Solution :=
  if s.inHeader then .error "header incomplete" else .ok s.solution

end GlpkState

/-- The reader of glpsol's reports. -/
def glpkReader : ReportReader GlpkState where
  solver := "Glpk"
  start := .start
  step s text := (s.line (fields text)).map .more
  finish := GlpkState.finish

end LinearProgram
