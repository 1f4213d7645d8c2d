/-!
Kinds of files: the formats of problems and the kinds of solutions.
-/

namespace LinearProgram

/-- File format of a problem. -/
inductive ProblemFormat where
  /-- The LP text format. -/
  | cplex
  /-- The native format of glpsol. -/
  | glpk
  /-- The fixed MPS format. -/
  | mps
  deriving DecidableEq

namespace ProblemFormat

instance : Inhabited ProblemFormat := ⟨cplex⟩

/-- The name of a problem format. -/
def name : ProblemFormat → String
  | cplex => "CPLEX"
  | glpk => "GLPK"
  | mps => "MPS"

instance : ToString ProblemFormat := ⟨name⟩

end ProblemFormat

/-- Kind of solution in a solution file. -/
inductive SolutionKind where
  /-- A vertex found by the simplex method. -/
  | basic
  /-- An interior point. -/
  | interiorPoint
  /-- A mixed integer solution. -/
  | mixedInteger
  deriving DecidableEq

namespace SolutionKind

instance : Inhabited SolutionKind := ⟨basic⟩

/-- The name of a solution kind. -/
def name : SolutionKind → String
  | basic => "BASIC_SOLUTION"
  | interiorPoint => "IPT_SOLUTION"
  | mixedInteger => "MIP_SOLUTION"

instance : ToString SolutionKind := ⟨name⟩

end SolutionKind

end LinearProgram
