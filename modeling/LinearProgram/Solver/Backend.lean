import LinearProgram.Cache.Register
import LinearProgram.ColumnName
import LinearProgram.Solution
import LinearProgram.Solver.Kind

/-!
Backends, and what every backend can do with a cache.

A backend loads problem files, solves them, and loads and saves solutions. On top of these operations stand
those that a backend gets for free: running a problem file with or without a cache, and moving solutions
between backend and cache.

* `Backend`: the operations that a backend provides.
* `Bench`: a backend, a cache and the host they share.
* `Backend.loadProblem`, `Backend.loadKnownSolution`, `Backend.registerSolution`: the steps of a cached run.
* `Backend.runAlone`, `Backend.runCached`: a run without and with a cache.
-/

namespace LinearProgram

/-- A computation on a backend and a host that may fail. -/
abbrev BackendM (β : Type) := ExceptT Error (StateM (β × Host))

/-- What a backend provides. -/
class Backend (β : Type) where
  /-- The solver that the backend stands for. -/
  solverKind : β → SolverKind
  /-- The name of the backend in messages. -/
  name : β → String
  /-- The kind of the solutions that `solve` finds. -/
  solutionKind : β → SolutionKind
  /-- The current solution. -/
  solution : β → Solution
  /-- The file of the loaded problem. -/
  problemFile : β → Option String
  /-- The format of the loaded problem. -/
  problemFormat : β → Option ProblemFormat
  /-- The file that holds the current solution, if the backend keeps one. -/
  solutionFile : β → Option String
  /-- The value of a column in the current solution. -/
  variableValue : β → String → Logged (Except Error Binary64)
  /-- Take over a problem file. -/
  doLoadProblem : String → ProblemFormat → BackendM β Unit
  /-- Save the loaded problem to a file. -/
  saveProblem : β → String → ProblemFormat → HostM Unit
  /-- Load a solution file. -/
  loadSolution : String → SolutionKind → BackendM β Unit
  /-- Save the current solution to a file. -/
  saveSolution : β → String → SolutionKind → HostM Unit
  /-- Solve the loaded problem. -/
  solve : BackendM β Status
  /-- Give up the backend with the files it owns. -/
  dispose : β → StateM Host Unit

/-- A backend, a cache and the host they share. -/
structure Bench (β : Type) where
  backend : β
  cache : Cache
  host : Host

/-- A computation on a bench that may fail. -/
abbrev BenchM (β : Type) := ExceptT Error (StateM (Bench β))

namespace BackendM

variable {β α : Type}

/-- A computation that leaves the backend alone. -/
def onHost (act : HostM α) : BackendM β α := fun (b, h) =>
  let (result, h') := act h
  (result, (b, h'))

/-- A computation on the current backend that leaves it as it is. -/
def reading (act : β → HostM α) : BackendM β α := fun (b, h) =>
  let (result, h') := act b h
  (result, (b, h'))

/-- The current backend. -/
def current : BackendM β β := fun s => (.ok s.1, s)

end BackendM

namespace BenchM

variable {β α : Type}

/-- A computation that leaves the cache alone. -/
def onBackend (act : BackendM β α) : BenchM β α := fun s =>
  let (result, (backend, host)) := act (s.backend, s.host)
  (result, { s with backend, host })

/-- A computation that leaves the backend alone. -/
def onCache (act : CacheM α) : BenchM β α := fun s =>
  let (result, (cache, host)) := act (s.cache, s.host)
  (result, { s with cache, host })

end BenchM

namespace Backend

variable {β : Type} [Backend β]

/-- The objective of the current solution. -/
def objectiveValue (b : β) : Binary64 := (solution b).objective

/-- The value of the column of an index in the current solution. -/
def variableValueAt (b : β) (index : Nat) : Logged (Except Error Binary64) :=
  variableValue b (columnName index)

/-- A computation whose failure is a failure to load a problem file. -/
def loading {σ α : Type} (path : String) (act : ExceptT Error (StateM σ) α) :
    ExceptT Error (StateM σ) α :=
  ExceptT.adapt (Error.problemLoad path) act

/-- Load a problem file, and say whether a cache knows a solution of it. -/
def loadProblem (path : String) (format : ProblemFormat) (cache : Cache) : BackendM β Bool := do
  let d ← loading path (BackendM.onHost (digestOfFile path))
  loading path (doLoadProblem path format)
  pure (cache.contains d)

/-- Load the solution that a cache knows of a problem file, and return its status. -/
def loadKnownSolution (path : String) (cache : Cache) : BackendM β Status := do
  let d ← BackendM.onHost (digestOfFile path)
  match cache.get? d with
  | none => throw (.notFound "known solution" d.hex)
  | some known =>
    loadSolution known.file known.kind
    pure known.status

/-- Save the current solution to a new temporary file, and return its path. -/
def saveSolutionToTemporary (b : β) (kind : SolutionKind) : HostM String := do
  let path ← Host.makeTemporary (name b ++ "-") "-solution.lp"
  Host.discardOnError path (saveSolution b path kind)
  pure path

/-- Register the current solution as that of a problem file. -/
def registerSolution (b : β) (problemFile : String) (status : Status) : CacheM Unit := do
  let kind := solutionKind b
  let file ← Cache.onHost (saveSolutionToTemporary b kind)
  Cache.register problemFile ⟨file, status, kind⟩

/-- Solve a problem file. -/
def runAlone (path : String) (format : ProblemFormat) : BackendM β Status := do
  loading path (doLoadProblem path format)
  solve

/-- The status of a known solution, once it has been loaded. A solution that cannot be loaded is as good as
unknown, which the journal then says. -/
def reuse (path : String) : BenchM β Status := fun s =>
  match BenchM.onBackend (loadKnownSolution path s.cache) s with
  | (.ok status, s) => (.ok status, s)
  | (.error e, s) =>
    let message := s!"{name s.backend}: error loading known solution: {e.message}"
    (.ok .unknown, { s with host := (Host.note [.warn message] s.host).2 })

/-- Solve a problem file with the help of a cache: a problem whose content has been solved before is answered
from the cache without a run, and a new solution is registered. -/
def runCached (path : String) (format : ProblemFormat) : BenchM β Status := do
  let known ← BenchM.onBackend (loadProblem path format (← get).cache)
  let status ← if known then reuse path else pure .unknown
  if status ≠ .unknown then
    let message :=
      s!"{name (← get).backend}: reusing known solution for '{path}': {status.name}"
    BenchM.onBackend (BackendM.onHost (Host.note [.info message]))
    pure status
  else
    let status ← BenchM.onBackend solve
    BenchM.onCache (registerSolution (← get).backend path status)
    pure status

end Backend

end LinearProgram
