import LinearProgram.Report.Reader
import LinearProgram.Text.Lower

/-!
Reading the report of clp.

The first line is the header: the status, and in the newer layout a hyphen and the objective value. The
older layout gives the objective on a line of its own. An infeasible problem has nothing else to say.

* `splitAtHyphen`: the status and the rest of a header.
* `clpReader`: the reader.
-/

namespace LinearProgram

/-- A text before and after its first hyphen. -/
def splitAtHyphen (s : List Char) : List Char × Option (List Char) :=
  let before := s.takeWhile (· ≠ '-')
  match s.dropWhile (· ≠ '-') with
  | [] => (before, none)
  | _ :: after => (before, some after)

/-- The status that a trimmed lower-case text names. -/
def clpStatus (s : String) : Status :=
  if s = "optimal" then .optimal else if s = "infeasible" then .infeasible else .unknown

/-- The header. -/
def clpHeader (text : String) : Except LineFault (Progress (Option Solution)) :=
  let (before, after) := splitAtHyphen (lower text).toList
  let solution := { Solution.none with status := clpStatus (String.ofList (trim before)) }
  if solution.status = .infeasible then .ok (.done solution)
  else
    match after with
    | some rest =>
      if containsChars "objective value".toList rest then do
        let objective ← realField (fields (String.ofList rest)) 2
        return .more (some { solution with objective })
      else .ok (.more (some solution))
    | none => .ok (.more (some solution))

/-- A line after the header: the objective, or a column, whose name begins with `x`. -/
def clpLine (solution : Solution) (text : String) : Except LineFault Solution :=
  let fields := fields text
  if fields.isEmpty then .ok solution
  else if beginsWith text "Objective value" then do
    return { solution with objective := ← realField fields 2 }
  else
    match fields with
    | _ :: name :: _ :: _ :: _ =>
      if beginsWith name "x" then do return solution.assign name (← realField fields 2)
      else .ok solution
    | _ => .ok solution

/-- The reader of clp's reports; its state is the solution once the header has been read. -/
def clpReader : ReportReader (Option Solution) where
  solver := "Clp"
  start := none
  step
    | none, text => clpHeader text
    | some solution, text => (clpLine solution text).map (.more ∘ some)
  finish
    | none => .error "no status line"
    | some solution => .ok solution

end LinearProgram
