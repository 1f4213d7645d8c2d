import LinearProgram.Solver.Backend
import LinearProgram.Solver.Program

/-!
The backend that starts a solver program.

The program gets the problem file as it is and writes its report to a temporary file. The report is read into
the current solution, and the file is kept beside it: the two are replaced together or not at all.

* `CommandSolver`: a program with its time limit, the loaded problem and the current solution.
* `CommandSolver.execute`: one run of the program.
* `CommandSolver.adopt`: a report file becomes the current solution.
* The instance of `Backend`.
-/

namespace LinearProgram

/-- A backend that starts a program. -/
structure CommandSolver where
  program : Program
  limit : Option Duration
  problemFile : Option String
  problemFormat : Option ProblemFormat
  solutionFile : Option String
  solution : Solution
  deriving DecidableEq

namespace CommandSolver

/-- A backend without a time limit and without a problem. -/
def new (program : Program) : CommandSolver := ⟨program, none, none, none, none, .none⟩

/-- The backend with a time limit. -/
def withLimit (s : CommandSolver) (limit : Duration) : CommandSolver := { s with limit := some limit }

/-- The name of the backend is that of its program. -/
def name (s : CommandSolver) : String := s.program.name

/-- How many lines of output a failure repeats. -/
def tailLines : Nat := 5

/-- The last lines of an output, in one line. -/
def outputTail (lines : List String) : String :=
  " | ".intercalate (lines.drop (lines.length - tailLines))

/-- The failure of a run. -/
def executionError (s : CommandSolver) (commandLine reason : String) : Error :=
  .solverExecution s.name commandLine reason

/-- A new file for a report. -/
def makeSolutionFile (s : CommandSolver) : HostM String :=
  Host.makeTemporary (s.name ++ "-") s.program.solutionSuffix

/-- Start the program and wait for its end. -/
def launch (s : CommandSolver) (arguments : List String) (output commandLine : String) : HostM Ending :=
  fun h =>
    let (result, files) := h.launcher ⟨s.program.command, arguments, output, s.limit⟩ h.files
    let h := { h with files }
    match result with
    | .ok ending => (.ok ending, h)
    | .error fault => (.error (s.executionError commandLine fault.message), h)

/-- What follows from the end of a run: a failure unless the program exits with code zero. -/
def conclude (s : CommandSolver) (ending : Ending) (output commandLine : String) : HostM Unit := do
  match ending, s.limit with
  | .overran, some limit =>
    Host.note [.info s!"{s.name}: killing solver after {limit.text}"]
    throw (.solverTimeout s.name commandLine limit)
  | ending, _ =>
    let bytes := match (← get).files.read output with
      | .ok bytes => bytes
      | .error _ => []
    let lines := textLines (Utf8.decodeLossy bytes)
    Host.note (lines.map fun line => .debug s!"{s.name}: {line}")
    if ending ≠ .exited 0 then
      throw (s.executionError commandLine s!"{ending.text}, output: {outputTail lines}")

/-- Run the program. Its output goes to a temporary file that is gone afterwards. -/
def execute (s : CommandSolver) (arguments : List String) (commandLine : String) : HostM Unit := do
  let output ← Host.makeTemporary (s.name ++ "-") ".log"
  Host.discardAfter output do
    let ending ← s.launch arguments output commandLine
    s.conclude ending output commandLine

/-- The solution in a report file. -/
def readReport (s : CommandSolver) (path : String) : HostM Solution := do
  Host.logged (s.program.readReport (← Host.read path))

/-- Make a report file that has been read the current solution. The file of the former one is removed. -/
def adopt (file : String) (solution : Solution) : BackendM CommandSolver Unit := fun (s, h) =>
  let h := (Host.discardAny s.solutionFile h).2
  (.ok (), ({ s with solutionFile := some file, solution }, h))

/-- Take over a problem file, which is not looked at. -/
def doLoadProblem (path : String) (format : ProblemFormat) : BackendM CommandSolver Unit :=
  fun (s, h) =>
    let message := s!"{s.name}: using problem file '{path}' ({format.name})"
    let h := (Host.note [.debug message] h).2
    (.ok (), ({ s with problemFile := some path, problemFormat := some format }, h))

/-- Copy the loaded problem to a file; only its own format can be had. -/
def saveProblem (s : CommandSolver) (path : String) (format : ProblemFormat) : HostM Unit := do
  match s.problemFile, s.problemFormat with
  | some file, some loaded =>
    if format ≠ loaded then throw (.formatMismatch format loaded)
    Host.copy file path
  | _, _ => throw (.noProblemLoaded s.name)

/-- Load a report file: it is read, and a copy of it is kept. -/
def loadSolution (path : String) (kind : SolutionKind) : BackendM CommandSolver Unit := do
  let s ← BackendM.current
  if kind ≠ .basic then throw (.unsupportedFormat s.name kind.name)
  let solution ← BackendM.onHost (s.readReport path)
  let file ← BackendM.onHost s.makeSolutionFile
  BackendM.onHost (Host.discardOnError file (Host.copy path file))
  adopt file solution

/-- Copy the report of the current solution to a file. -/
def saveSolution (s : CommandSolver) (path : String) (kind : SolutionKind) : HostM Unit := do
  if kind ≠ .basic then throw (.unsupportedFormat s.name kind.name)
  match s.solutionFile with
  | some file => Host.copy file path
  | none => throw (.notFound "solution file" s.name)

/-- Run the program on the loaded problem and read its report. -/
def solve : BackendM CommandSolver Status := do
  let s ← BackendM.current
  match s.problemFile with
  | none => throw (.noProblemLoaded s.name)
  | some problemFile =>
    let file ← BackendM.onHost s.makeSolutionFile
    let solution ← BackendM.onHost <| Host.discardOnError file do
      let arguments := s.program.arguments problemFile file
      let commandLine := s.program.commandLine arguments
      Host.note [.info s!"{s.name}: running '{commandLine}'"]
      s.execute arguments commandLine
      s.readReport file
    adopt file solution
    BackendM.onHost <| Host.note
      [.info s!"{s.name}: status {solution.status.name}, objective {solution.objective.text}"]
    pure solution.status

end CommandSolver

instance : Backend CommandSolver where
  solverKind s := s.program.solverKind
  name := CommandSolver.name
  solutionKind _ := .basic
  solution := CommandSolver.solution
  problemFile := CommandSolver.problemFile
  problemFormat := CommandSolver.problemFormat
  solutionFile := CommandSolver.solutionFile
  variableValue s name := (s.solution.columnValue name).map .ok
  doLoadProblem := CommandSolver.doLoadProblem
  saveProblem := CommandSolver.saveProblem
  loadSolution := CommandSolver.loadSolution
  saveSolution := CommandSolver.saveSolution
  solve := CommandSolver.solve
  dispose s := Host.discardAny s.solutionFile

end LinearProgram
