import LinearProgram.Report.Cbc
import LinearProgram.Report.Clp
import LinearProgram.Report.Glpk
import LinearProgram.Report.Scip
import LinearProgram.Solver.Kind

/-!
Solver programs: the command that starts one, its arguments, and the report that it writes.

* `Program`: one of the four programs with its settings.
* `Program.ofEnvironment`: a program whose command is taken from an environment variable.
* `Program.arguments`: the arguments that make it read a problem and write a report.
* `Program.readReport`: the solution in a report.
-/

namespace LinearProgram

/-- A solver program with its settings. -/
inductive Program where
  /-- The program glpsol, perhaps with a time limit in seconds. -/
  | glpk (command : String) (seconds : Option Nat)
  /-- The program cbc, perhaps with a time limit in seconds and a number of threads. -/
  | cbc (command : String) (seconds threads : Option Nat)
  /-- The program clp. -/
  | clp (command : String)
  /-- The program scip. -/
  | scip (command : String)
  deriving DecidableEq

/-- The values of environment variables; a value is bytes and need not be text. -/
abbrev Environment := List (String × List UInt8)

/-- The solvers that are programs of their own. -/
inductive ProgramKind where
  | glpk
  | cbc
  | clp
  | scip
  deriving DecidableEq

namespace ProgramKind

/-- The program that a solver is, if it is one. -/
def ofSolver? : SolverKind → Option ProgramKind
  | .glpk => some glpk
  | .cbc => some cbc
  | .clp => some clp
  | .scip => some scip
  | .highs => none

/-- The command that starts a program unless another one is chosen. -/
def command : ProgramKind → String
  | glpk => "glpsol"
  | cbc => "cbc"
  | clp => "clp"
  | scip => "scip"

/-- The environment variable that may choose another command. -/
def commandVariable : ProgramKind → String
  | glpk => "GLPSOL_BINARY"
  | cbc => "CBC_BINARY"
  | clp => "CLP_BINARY"
  | scip => "SCIP_BINARY"

/-- The program with a command and no other settings. -/
def withCommand (kind : ProgramKind) (command : String) : Program :=
  match kind with
  | glpk => .glpk command none
  | cbc => .cbc command none none
  | clp => .clp command
  | scip => .scip command

end ProgramKind

namespace Program

/-- The program under its usual command. -/
def new (kind : ProgramKind) : Program := kind.withCommand kind.command

/-- The command that an environment chooses: the value of the variable if it is a text and not empty. -/
def commandOf (environment : Environment) (name default : String) : String :=
  match (environment.lookup name).bind Utf8.decode? with
  | some command => if command.isEmpty then default else command
  | none => default

/-- The program under the command that an environment chooses. -/
def ofEnvironment (kind : ProgramKind) (environment : Environment) : Program :=
  kind.withCommand (commandOf environment kind.commandVariable kind.command)

/-- The same program under another command. -/
def withCommand (program : Program) (command : String) : Program :=
  match program with
  | glpk _ seconds => glpk command seconds
  | cbc _ seconds threads => cbc command seconds threads
  | clp _ => clp command
  | scip _ => scip command

/-- The same program with a time limit, if it knows one. -/
def withSeconds (program : Program) (seconds : Nat) : Program :=
  match program with
  | glpk command _ => glpk command (some seconds)
  | cbc command _ threads => cbc command (some seconds) threads
  | other => other

/-- The same program with a number of threads, if it knows one. -/
def withThreads (program : Program) (threads : Nat) : Program :=
  match program with
  | cbc command seconds _ => cbc command seconds (some threads)
  | other => other

/-- The solver that a program is. -/
def solverKind : Program → SolverKind
  | glpk .. => .glpk
  | cbc .. => .cbc
  | clp _ => .clp
  | scip _ => .scip

/-- The name of a program in messages. -/
def name : Program → String
  | glpk .. => "Glpk"
  | cbc .. => "Cbc"
  | clp _ => "Clp"
  | scip _ => "Scip"

/-- The command that starts a program. -/
def command : Program → String
  | glpk command _ => command
  | cbc command _ _ => command
  | clp command => command
  | scip command => command

/-- The time limit in seconds. -/
def seconds : Program → Option Nat
  | glpk _ seconds => seconds
  | cbc _ seconds _ => seconds
  | _ => none

/-- The number of threads. -/
def threads : Program → Option Nat
  | cbc _ _ threads => threads
  | _ => none

/-- An argument with its value, if there is a value. -/
def setting (flag : String) : Option Nat → List String
  | some n => [flag, toString n]
  | none => []

/-- The arguments that make a program read a problem file and write its report to a solution file. -/
def arguments (program : Program) (problemFile solutionFile : String) : List String :=
  match program with
  | glpk _ seconds => ["--lp", problemFile] ++ setting "--tmlim" seconds ++ ["-o", solutionFile]
  | cbc _ seconds threads =>
    [problemFile] ++ setting "seconds" seconds ++ setting "threads" threads
      ++ ["solve", "solution", solutionFile]
  | clp _ => [problemFile, "solve", "solution", solutionFile]
  | scip _ => ["-f", problemFile, "-l", solutionFile]

/-- The end of the name of a solution file. -/
def solutionSuffix : Program → String
  | scip _ => "-solution.log"
  | _ => "-solution.lp"

/-- The solution in a report of the program. -/
def readReport (program : Program) (bytes : List UInt8) : Logged (Except Error Solution) :=
  match program with
  | glpk .. => glpkReader.read bytes
  | cbc .. => cbcReader.read bytes
  | clp _ => clpReader.read bytes
  | scip _ => scipReader.read bytes

/-- The command with its arguments, as it is shown. -/
def commandLine (program : Program) (arguments : List String) : String :=
  program.command ++ String.join (arguments.map fun a => " " ++ a)

end Program

end LinearProgram
