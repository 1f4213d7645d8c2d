import LinearProgram.Report.Reader

/-!
Reading the log of a scip session.

Three kinds of lines matter: the status, the primal bound, which is the objective, and the listing of the
best solution, which runs from a line `objective value` to a line `Statistics`.

* `scipReader`: the reader.
-/

namespace LinearProgram

/-- What is known of a log: the solution so far, whether a status has been seen, and whether the listing is
being read. -/
structure ScipState where
  solution : Solution
  seenStatus : Bool
  inListing : Bool
  deriving DecidableEq

namespace ScipState

/-- The state before the first line. -/
def start : ScipState := ⟨.none, false, false⟩

/-- A line that gives the status. An infeasible problem has nothing else to say. -/
def status (s : ScipState) (text : String) : Progress ScipState :=
  if contains text "optimal" then
    .more { s with solution := { s.solution with status := .optimal }, seenStatus := true }
  else if contains text "infeasible" then .done { s.solution with status := .infeasible }
  else .more { s with solution := { s.solution with status := .unknown }, seenStatus := true }

/-- A line that gives no status. -/
def other (s : ScipState) (text : String) (fields : List String) : Except LineFault ScipState :=
  match fields with
  | [] => .ok s
  | name :: _ =>
    if beginsWith text "Primal Bound" then do
      return { s with solution := { s.solution with objective := ← realField fields 3 } }
    else if beginsWith text "objective value" then .ok { s with inListing := true }
    else if beginsWith text "Statistics" then .ok { s with inListing := false }
    else if s.inListing && beginsWith name "x" then do
      return { s with solution := s.solution.assign name (← realField fields 1) }
    else .ok s

/-- A line. -/
def line (s : ScipState) (text : String) : Except LineFault (Progress ScipState) :=
  let trimmed := String.ofList (trim text.toList)
  if beginsWith trimmed "SCIP Status" then .ok (s.status trimmed)
  else (s.other trimmed (fields trimmed)).map .more

/-- The end of the log. -/
def finish (s : ScipState) : Except String Solution :=
  if s.seenStatus then .ok s.solution else .error "no 'SCIP Status' line"

end ScipState

/-- The reader of scip's logs. -/
def scipReader : ReportReader ScipState where
  solver := "Scip"
  start := .start
  step := ScipState.line
  finish := ScipState.finish

end LinearProgram
