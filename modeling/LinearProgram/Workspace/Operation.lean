import LinearProgram.Workspace.Basic

/-!
The operations on a workspace as data, so that histories of solvers and caches can be spoken of.

* `Workspace.Operation`: what can be asked of the solvers and caches of a workspace.
* `Workspace.Reply`: what an operation answers.
* `Workspace.Operation.run`: the operation itself.
* `Workspace.after`: the workspace after an operation, whether or not it fails.
-/

namespace LinearProgram

namespace Workspace

/-- A request to the solvers and caches of a workspace. Solvers and caches are given by their names. -/
inductive Operation where
  /-- Put a new cache under a name. -/
  | putCache (cache : String) (capacity : Nat)
  /-- Drop the entries of a cache. -/
  | clearCache (cache : String)
  /-- Register bytes as the known solution of a problem file, and mark the file that is made of them. -/
  | registerBytes (cache problemFile status : String) (kind : SolutionKind) (bytes : List UInt8)
    (mark : Option String)
  /-- Put a solver under a name. -/
  | putSolver (solver : String) (backend : Solver)
  /-- Hand a problem file to a solver. -/
  | doLoadProblem (solver problemFile : String) (format : ProblemFormat)
  /-- Load a problem file and look it up in a cache. -/
  | loadProblem (solver problemFile : String) (format : ProblemFormat) (cache : String)
  /-- Save the loaded problem. -/
  | saveProblem (solver target : String) (format : ProblemFormat)
  /-- Load a solution file. -/
  | loadSolution (solver source : String) (kind : SolutionKind)
  /-- Save the current solution. -/
  | saveSolution (solver target : String) (kind : SolutionKind)
  /-- Save the current solution to a temporary file, which is read and removed again. -/
  | keepSolution (solver : String) (kind : SolutionKind)
  /-- Load the solution that a cache knows of a problem file. -/
  | loadKnownSolution (solver problemFile cache : String)
  /-- Register the current solution as that of a problem file. -/
  | registerSolution (solver problemFile cache status : String)
  /-- Solve the loaded problem. -/
  | solve (solver : String)
  /-- Solve a problem file. -/
  | runAlone (solver problemFile : String) (format : ProblemFormat)
  /-- Solve a problem file with the help of a cache. -/
  | runCached (solver problemFile : String) (format : ProblemFormat) (cache : String)

/-- The answer to a request. -/
inductive Reply where
  /-- There is nothing to say. -/
  | done
  /-- Whether a solution is known. -/
  | known (answer : Bool)
  /-- The status of a solution. -/
  | status (s : Status)
  /-- The path and the content of a file. -/
  | content (path : String) (bytes : List UInt8)
  deriving DecidableEq

/-- The status of a name. -/
def statusNamed (name : String) : Except Error Status :=
  match Status.ofName? name with
  | some status => .ok status
  | none => .error (.notFound "status" name)

/-- Register bytes as the known solution of a problem file. The bytes become a temporary file, which is gone
again if anything fails. -/
def registerBytes (cache problemFile status : String) (kind : SolutionKind) (bytes : List UInt8)
    (mark? : Option String) : WorkspaceM Unit := do
  discard (WorkspaceM.cacheNamed cache)
  let file ← WorkspaceM.onHost (Host.makeTemporary "user-" ".lp")
  WorkspaceM.onHost (Host.discardOnError file (Host.write file bytes))
  if let some name := mark? then mark name file
  let status ← WorkspaceM.onHost
    (Host.discardOnError file (Host.logged (.silent (statusNamed status))))
  WorkspaceM.onCache cache (Cache.register problemFile ⟨file, status, kind⟩)

/-- Save the current solution of a solver to a temporary file, and remove it once it has been read. -/
def keepSolution (solver : String) (kind : SolutionKind) : WorkspaceM Reply := do
  let backend ← WorkspaceM.solverNamed solver
  let path ← WorkspaceM.onHost (Backend.saveSolutionToTemporary backend kind)
  WorkspaceM.onHost <| Host.discardAfter path do
    pure (.content path (← Host.read path))

/-- Register the current solution of a solver as that of a problem file. -/
def registerSolution (solver problemFile cache status : String) : WorkspaceM Unit := do
  let backend ← WorkspaceM.solverNamed solver
  let status ← WorkspaceM.onHost (Host.logged (.silent (statusNamed status)))
  WorkspaceM.onCache cache (Backend.registerSolution backend problemFile status)

open WorkspaceM in
/-- Do what is asked. -/
def Operation.run : Operation → WorkspaceM Reply
  | putCache cache capacity => do
    Workspace.putCache cache capacity
    pure .done
  | clearCache cache => do
    onCache cache Cache.clearOnHost
    pure .done
  | registerBytes cache problemFile status kind bytes mark => do
    Workspace.registerBytes cache problemFile status kind bytes mark
    pure .done
  | putSolver solver backend => do
    Workspace.putSolver solver backend
    pure .done
  | doLoadProblem solver problemFile format => do
    onSolver solver (Backend.doLoadProblem problemFile format)
    pure .done
  | loadProblem solver problemFile format cache => do
    let c ← cacheNamed cache
    pure (.known (← onSolver solver (Backend.loadProblem problemFile format c)))
  | saveProblem solver target format => do
    onHost (Backend.saveProblem (← solverNamed solver) target format)
    pure .done
  | loadSolution solver source kind => do
    onSolver solver (Backend.loadSolution source kind)
    pure .done
  | saveSolution solver target kind => do
    onHost (Backend.saveSolution (← solverNamed solver) target kind)
    pure .done
  | keepSolution solver kind => Workspace.keepSolution solver kind
  | loadKnownSolution solver problemFile cache => do
    let c ← cacheNamed cache
    pure (.status (← onSolver solver (Backend.loadKnownSolution problemFile c)))
  | registerSolution solver problemFile cache status => do
    Workspace.registerSolution solver problemFile cache status
    pure .done
  | solve solver => do pure (.status (← onSolver solver Backend.solve))
  | runAlone solver problemFile format => do
    pure (.status (← onSolver solver (Backend.runAlone problemFile format)))
  | runCached solver problemFile format cache => do
    pure (.status (← onBench solver cache (Backend.runCached problemFile format)))

/-- The workspace after an operation. -/
def after (w : Workspace) (op : Operation) : Workspace := (op.run w).2

end Workspace

end LinearProgram
