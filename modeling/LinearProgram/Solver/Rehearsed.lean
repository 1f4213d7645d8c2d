import LinearProgram.Report.Canonical
import LinearProgram.Solver.Backend

/-!
A backend that plays back given reports.

It stands in for a solver where none is wanted: each run takes the next of its reports, and any of its
operations can be made to fail.

* `BackendOperation`: the operations that can be made to fail.
* `RehearsedSolver`: the reports, the failing operations and the state.
* The instance of `Backend`.
-/

namespace LinearProgram

/-- An operation of a backend that can fail. -/
inductive BackendOperation where
  | doLoadProblem
  | saveProblem
  | loadSolution
  | saveSolution
  | solve
  deriving DecidableEq

/-- The name of an operation in messages. -/
def BackendOperation.name : BackendOperation → String
  | doLoadProblem => "do_load_problem"
  | saveProblem => "save_problem"
  | loadSolution => "load_solution"
  | saveSolution => "save_solution"
  | solve => "solve"

/-- A backend that plays back reports. -/
structure RehearsedSolver where
  name : String
  reports : List (List UInt8)
  failing : List BackendOperation
  solutionKind : SolutionKind
  solution : Solution
  solves : Nat
  problem : Option (String × ProblemFormat)
  deriving DecidableEq

namespace RehearsedSolver

/-- A backend before its first run. -/
def new (name : String) (reports : List (List UInt8)) (failing : List BackendOperation)
    (solutionKind : SolutionKind) : RehearsedSolver :=
  ⟨name, reports, failing, solutionKind, .none, 0, none⟩

/-- Fail if an operation is to fail. -/
def guarded (s : RehearsedSolver) (op : BackendOperation) : Except Error Unit :=
  if s.failing.contains op then .error (.notImplemented s.name op.name) else .ok ()

/-- The report of a run, the runs being counted from zero. The last report serves all later runs. -/
def reportOf (s : RehearsedSolver) (run : Nat) : List UInt8 :=
  (s.reports[min run (s.reports.length - 1)]?).getD []

/-- Record a problem file. -/
def doLoadProblem (path : String) (format : ProblemFormat) : BackendM RehearsedSolver Unit :=
  fun (s, h) =>
    match s.guarded .doLoadProblem with
    | .error e => (.error e, (s, h))
    | .ok () => (.ok (), ({ s with problem := some (path, format) }, h))

/-- Save no problem. -/
def saveProblem (s : RehearsedSolver) (_path : String) (_format : ProblemFormat) : HostM Unit :=
  Host.logged (.silent (s.guarded .saveProblem))

/-- Read a kept solution, whatever its kind. -/
def loadSolution (path : String) (_kind : SolutionKind) : BackendM RehearsedSolver Unit := do
  let s ← BackendM.current
  BackendM.onHost (Host.logged (.silent (s.guarded .loadSolution)))
  let bytes ← BackendM.onHost (Host.read path)
  let solution ← BackendM.onHost (Host.logged (canonicalReader.read bytes))
  modify fun (s, h) => ({ s with solution }, h)

/-- Write the current solution in its kept form, whatever the kind asked for. -/
def saveSolution (s : RehearsedSolver) (path : String) (_kind : SolutionKind) : HostM Unit := do
  Host.logged (.silent (s.guarded .saveSolution))
  Host.write path (Utf8.encode s.solution.report)

/-- Take the next report. A run that fails counts too. -/
def solve : BackendM RehearsedSolver Status := do
  let s ← BackendM.current
  modify fun (s, h) => ({ s with solves := s.solves + 1 }, h)
  BackendM.onHost (Host.logged (.silent (s.guarded .solve)))
  let solution ← BackendM.onHost (Host.logged (canonicalReader.read (s.reportOf s.solves)))
  modify fun (s, h) => ({ s with solution }, h)
  pure solution.status

end RehearsedSolver

instance : Backend RehearsedSolver where
  solverKind _ := .glpk
  name := RehearsedSolver.name
  solutionKind := RehearsedSolver.solutionKind
  solution := RehearsedSolver.solution
  problemFile s := s.problem.map Prod.fst
  problemFormat s := s.problem.map Prod.snd
  solutionFile _ := none
  variableValue s _ := .silent (.error (.notImplemented s.name "variable_value"))
  doLoadProblem := RehearsedSolver.doLoadProblem
  saveProblem := RehearsedSolver.saveProblem
  loadSolution := RehearsedSolver.loadSolution
  saveSolution := RehearsedSolver.saveSolution
  solve := RehearsedSolver.solve
  dispose _ := pure ()

end LinearProgram
