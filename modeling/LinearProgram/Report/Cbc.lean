import LinearProgram.Report.Reader
import LinearProgram.Text.Lower

/-!
Reading the report of cbc.

The first line that is not blank is the header: the status and, unless the problem is infeasible, the
objective value. Every later line with four fields is a column.

* `cbcStatus`: the status that a header names.
* `objectivePlace?`: where the header gives the objective value.
* `cbcReader`: the reader.
-/

namespace LinearProgram

/-- The status that the fields of a header name, in any letter case. A run that was stopped has found a
solution. -/
def cbcStatus (fields : List String) : Status :=
  match lower (fields[0]?.getD "") with
  | "optimal" => .optimal
  | "infeasible" => .infeasible
  | "integer" => if fields[1]?.map lower = some "infeasible" then .infeasible else .unknown
  | "unbounded" => .unbounded
  | "stopped" => .solutionFound
  | _ => .unknown

/-- The index of the field after the first pair of fields `objective value`. -/
def objectivePlace? : List String → Option Nat
  | first :: second :: rest =>
    if first = "objective" ∧ second = "value" then some 2
    else (objectivePlace? (second :: rest)).map (· + 1)
  | _ => none

/-- The solution that a header starts. -/
def cbcHeader (text : String) : Except LineFault Solution :=
  let status := cbcStatus (fields text)
  match objectivePlace? (fields (lower text)) with
  | some index => do
    return { Solution.none with status, objective := ← realField (fields text) index }
  | none =>
    if status = .infeasible then .ok { Solution.none with status }
    else .error (.truncated "no objective value in the status line")

/-- The fields of a column, without the mark of a violated bound. -/
def cbcUnmarked : List String → List String
  | "**" :: fields => fields
  | fields => fields

/-- A line after the header. -/
def cbcColumn (solution : Solution) (fields : List String) : Except LineFault Solution :=
  match cbcUnmarked fields with
  | index :: name :: value :: cost :: rest => do
    return solution.assign name (← realField (index :: name :: value :: cost :: rest) 2)
  | _ => .ok solution

/-- The reader of cbc's reports; its state is the solution once the header has been read. -/
def cbcReader : ReportReader (Option Solution) where
  solver := "Cbc"
  start := none
  step s text :=
    if (fields text).isEmpty then .ok (.more s)
    else
      match s with
      | none => (cbcHeader text).map (.more ∘ some)
      | some solution => (cbcColumn solution (fields text)).map (.more ∘ some)
  finish
    | none => .error "no status line"
    | some solution => .ok solution

end LinearProgram
