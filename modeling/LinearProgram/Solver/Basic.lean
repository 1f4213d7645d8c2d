import LinearProgram.Solver.CommandLine
import LinearProgram.Solver.Rehearsed

/-!
Solvers of either sort behind one type.

* `Solver`: a backend that starts a program, or one that plays back reports.
* `Solver.ofKind`: the backend of a solver, its command taken from the environment.
* The instance of `Backend`, which hands every operation on to the backend inside.
-/

namespace LinearProgram

/-- A backend of either sort. -/
inductive Solver where
  /-- It starts a program. -/
  | command (s : CommandSolver)
  /-- It plays back reports. -/
  | rehearsed (s : RehearsedSolver)
  deriving DecidableEq

namespace Solver

/-! ### Making a solver -/

/-- The backend of a solver. The embedded solver is not part of this build. -/
def ofKind (kind : SolverKind) (environment : Environment) : Logged (Except Error Solver) where
  value :=
    match ProgramKind.ofSolver? kind with
    | some program => .ok (.command (.new (.ofEnvironment program environment)))
    | none => .error (.unsupportedSolver s!"{kind.name} (compile with the '{kind.name}-solver' feature)")
  entries := [.debug s!"creating solver instance for '{kind.name}'"]

/-! ### Handing on -/

/-- What a view of a backend shows of the backend inside. -/
def view {α : Type} (onCommand : CommandSolver → α) (onRehearsed : RehearsedSolver → α) : Solver → α
  | command s => onCommand s
  | rehearsed s => onRehearsed s

/-- A computation on the backend inside. -/
def inside {α : Type} (onCommand : BackendM CommandSolver α) (onRehearsed : BackendM RehearsedSolver α) :
    BackendM Solver α
  | (command s, h) =>
    let (result, (s, h)) := onCommand (s, h)
    (result, (command s, h))
  | (rehearsed s, h) =>
    let (result, (s, h)) := onRehearsed (s, h)
    (result, (rehearsed s, h))

end Solver

open Backend in
instance : Backend Solver where
  solverKind := Solver.view solverKind solverKind
  name := Solver.view name name
  solutionKind := Solver.view solutionKind solutionKind
  solution := Solver.view solution solution
  problemFile := Solver.view problemFile problemFile
  problemFormat := Solver.view problemFormat problemFormat
  solutionFile := Solver.view solutionFile solutionFile
  variableValue := Solver.view variableValue variableValue
  doLoadProblem path format := Solver.inside (doLoadProblem path format) (doLoadProblem path format)
  saveProblem := Solver.view saveProblem saveProblem
  loadSolution path kind := Solver.inside (loadSolution path kind) (loadSolution path kind)
  saveSolution := Solver.view saveSolution saveSolution
  solve := Solver.inside solve solve
  dispose := Solver.view dispose dispose

end LinearProgram
