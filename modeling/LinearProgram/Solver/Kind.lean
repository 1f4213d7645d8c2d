import LinearProgram.Error
import LinearProgram.Text.Blank

/-!
The solvers that the library knows.

* `SolverKind`: the solvers, with their names and `SolverKind.ofName`, which reads a name in any letter case.
-/

namespace LinearProgram

/-- A solver. -/
inductive SolverKind where
  /-- The command-line solver glpsol. -/
  | glpk
  /-- The command-line solver cbc. -/
  | cbc
  /-- The command-line solver clp. -/
  | clp
  /-- The command-line solver scip. -/
  | scip
  /-- The embedded solver HiGHS. -/
  | highs
  deriving DecidableEq

namespace SolverKind

/-- Every solver, whether or not it is part of this build. -/
def all : List SolverKind := [glpk, cbc, clp, scip, highs]

/-- The name of a solver. -/
def name : SolverKind → String
  | glpk => "glpk"
  | cbc => "cbc"
  | clp => "clp"
  | scip => "scip"
  | highs => "highs"

/-- Whether the solver runs inside the process. -/
def isEmbedded (kind : SolverKind) : Bool := kind = highs

/-- The solver of a name, letter case aside. -/
def ofName (s : String) : Except Error SolverKind :=
  match all.find? fun kind => sameIgnoringCase kind.name s with
  | some kind => .ok kind
  | none => .error (.unsupportedSolver s)

end SolverKind

end LinearProgram
