import LinearProgram.Text.Blank

/-!
The outcome of a solver run.

* `Status`: the outcomes, with their names and `Status.ofName?`, which reads a name in any letter case.
-/

namespace LinearProgram

/-- Outcome of a solver run. -/
inductive Status where
  /-- Nothing is known, or the run has not happened yet. -/
  | unknown
  /-- An optimal solution was found. -/
  | optimal
  /-- The problem has no feasible solution. -/
  | infeasible
  /-- The objective is unbounded. -/
  | unbounded
  /-- The solver rejected the problem. -/
  | invalidProblemDefinition
  /-- The solver ended without a solution. -/
  | noSolutionFound
  /-- The solver ended with a solution that need not be optimal. -/
  | solutionFound
  deriving DecidableEq

namespace Status

instance : Inhabited Status := ⟨unknown⟩

/-- Every status. -/
def all : List Status :=
  [unknown, optimal, infeasible, unbounded, invalidProblemDefinition, noSolutionFound, solutionFound]

/-- The name of a status. -/
def name : Status → String
  | unknown => "UNKNOWN"
  | optimal => "OPTIMAL"
  | infeasible => "INFEASIBLE"
  | unbounded => "UNBOUNDED"
  | invalidProblemDefinition => "INVALID_PROBLEM_DEFINITION"
  | noSolutionFound => "NO_SOLUTION_FOUND"
  | solutionFound => "SOLUTION_FOUND"

instance : ToString Status := ⟨name⟩

/-- The status with a given name, letter case aside. -/
def ofName? (s : String) : Option Status := all.find? fun status => sameIgnoringCase status.name s

end Status

end LinearProgram
