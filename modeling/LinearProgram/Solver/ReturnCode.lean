import LinearProgram.Error
import LinearProgram.Journal
import LinearProgram.Status

/-!
The codes that the embedded solver HiGHS returns, and what they mean.

* `modelStatuses`: what each model status says about a run.
* `statusOfModelCode`: the status of a run.
* `checkRunCode`: whether a call succeeded.
-/

namespace LinearProgram

/-- The name of the embedded solver in messages. -/
def highsName : String := "Highs"

/-- The meaning of the model statuses, in the order of their codes. -/
def modelStatuses : List (Status × Level × String) :=
  [(.unknown, .info, "model status not set"),
   (.invalidProblemDefinition, .warn, "the model could not be loaded"),
   (.invalidProblemDefinition, .warn, "the model is invalid"),
   (.noSolutionFound, .warn, "presolve failed"),
   (.noSolutionFound, .warn, "the solver failed"),
   (.noSolutionFound, .warn, "postsolve failed"),
   (.invalidProblemDefinition, .warn, "the model is empty"),
   (.optimal, .info, "an optimal solution has been found"),
   (.infeasible, .info, "the model has no feasible solution"),
   (.noSolutionFound, .warn, "the model is unbounded or infeasible, presolve cannot tell which"),
   (.unbounded, .info, "the objective is unbounded"),
   (.solutionFound, .info, "the objective has reached its bound"),
   (.solutionFound, .info, "the objective has reached its target"),
   (.noSolutionFound, .warn, "the search was prematurely terminated by the time limit"),
   (.noSolutionFound, .warn, "the search was prematurely terminated by the iteration limit"),
   (.unknown, .warn, "the model status is unknown"),
   (.noSolutionFound, .warn, "the search was prematurely terminated by the solution limit"),
   (.noSolutionFound, .warn, "the search was interrupted")]

/-- The status of a run, from the code of its model status. -/
def statusOfModelCode (code : Int) : Logged (Except Error Status) :=
  match (if 0 ≤ code then modelStatuses[code.toNat]? else none) with
  | some (status, level, meaning) => ⟨.ok status, [⟨level, s!"{highsName}: {meaning}"⟩]⟩
  | none => .silent (.error (.unknownReturnCode highsName code))

/-- Whether a call succeeded, from its code. A warning is a success. -/
def checkRunCode (code : Int) : Logged (Except Error Unit) :=
  if code = 0 then .silent (.ok ())
  else if code = 1 then ⟨.ok (), [.warn s!"{highsName}: call completed with a warning"]⟩
  else if code = -1 then
    .silent (.error (.solverExecution highsName "Highs_run" "the library reported an error"))
  else .silent (.error (.unknownReturnCode highsName code))

end LinearProgram
