import LinearProgram.Error
import LinearProgram.Solution
import LinearProgram.Text.Line

/-!
Reading a report line by line.

A reader keeps a state. Each line changes the state, or ends the reading early with a solution, or is
refused; the end of the report turns the state into a solution or finds the report truncated.

* `FieldFault`, `ReportFault`: why a field, and so a report, is refused.
* `ReportReader`: a state machine over lines.
* `ReportReader.readFrom`, `ReportReader.readLines`: the run of a reader over the lines of a report.
* `ReportFault.toError`, `ReportFault.entries`: the failure, and the one warning that goes with it.
-/

namespace LinearProgram

/-! ### Faults -/

/-- Why a field of a line is refused. -/
inductive FieldFault where
  /-- The line has no field of that index. -/
  | missing (index : Nat)
  /-- The field does not have the form that is wanted. -/
  | malformed (index : Nat) (field reason : String)
  deriving DecidableEq

/-- The wording of a fault of a field. -/
def FieldFault.message : FieldFault → String
  | missing index => s!"missing field {index}"
  | malformed index field reason => s!"field {index} '{field}': {reason}"

/-- Why a line is refused. -/
inductive LineFault where
  /-- A field is missing or malformed. -/
  | field (fault : FieldFault)
  /-- The line shows that the report lacks what it should hold. -/
  | truncated (reason : String)
  deriving DecidableEq

/-- Why a report is refused. -/
inductive ReportFault where
  /-- A field of the line of the given number, counted from one, is missing or malformed. -/
  | badField (number : Nat) (line : String) (fault : FieldFault)
  /-- The report ends, or might as well end, after the line of the given number. -/
  | truncated (number : Nat) (reason : String)
  /-- A line that is not UTF-8 was reached. -/
  | garbled
  deriving DecidableEq

namespace ReportFault

/-- The fault of a report that a refused line makes. -/
def ofLine (number : Nat) (line : String) : LineFault → ReportFault
  | .field fault => badField number line fault
  | .truncated reason => truncated number reason

/-- The failure that is reported for a fault. -/
def toError (solver : String) : ReportFault → Error
  | badField number line fault => .parse solver number line fault.message
  | truncated number reason => .parse solver number "" s!"truncated report: {reason}"
  | garbled => .file .invalidData

/-- The warning that is written for a fault. -/
def entries (solver : String) : ReportFault → List Entry
  | badField number line fault =>
    [.warn s!"{solver}: failed to extract value from line {number} '{line}': {fault.message}"]
  | truncated number reason =>
    [.warn s!"{solver}: solution report ends after line {number}: {reason}"]
  | garbled => []

end ReportFault

/-! ### Fields -/

/-- Read the field of an index with a reader of its form. -/
def readField {α : Type} (form : String → Except String α) (fields : List String) (index : Nat) :
    Except LineFault α :=
  match fields[index]? with
  | none => .error (.field (.missing index))
  | some field =>
    match form field with
    | .ok a => .ok a
    | .error reason => .error (.field (.malformed index field reason))

/-- The form of a real number. -/
def realForm (field : String) : Except String Binary64 := (Binary64.read field).mapError (·.message)

/-- The form of a count. -/
def countForm (field : String) : Except String Nat := (readNatural maxSize field).mapError (·.message)

/-- The form of a status. -/
def statusForm (field : String) : Except String Status :=
  match Status.ofName? field with
  | some status => .ok status
  | none => .error (Error.notFound "status" field).message

/-- A real number in the field of an index. -/
def realField (fields : List String) (index : Nat) : Except LineFault Binary64 :=
  readField realForm fields index

/-- A count in the field of an index. -/
def countField (fields : List String) (index : Nat) : Except LineFault Nat :=
  readField countForm fields index

/-! ### Readers -/

/-- What a line does to a reader. -/
inductive Progress (σ : Type) where
  /-- Reading goes on in a new state. -/
  | more (state : σ)
  /-- Reading ends with a solution, whatever follows. -/
  | done (solution : Solution)

/-- A reader of one kind of report. -/
structure ReportReader (σ : Type) where
  /-- The name under which faults are reported. -/
  solver : String
  /-- The state before the first line. -/
  start : σ
  /-- What a line does. -/
  step : σ → String → Except LineFault (Progress σ)
  /-- What the end of the report does: a solution, or why the report is truncated. -/
  finish : σ → Except String Solution

namespace ReportReader

variable {σ : Type}

/-- Read the lines after the first `number` ones. -/
def readFrom (r : ReportReader σ) (number : Nat) (state : σ) : List Line → Except ReportFault Solution
  | [] => (r.finish state).mapError (.truncated number)
  | .garbled :: _ => .error .garbled
  | .text line :: lines =>
    match r.step state line with
    | .error fault => .error (.ofLine (number + 1) line fault)
    | .ok (.done solution) => .ok solution
    | .ok (.more next) => r.readFrom (number + 1) next lines

/-- Read a report given by its lines. -/
def readLines (r : ReportReader σ) (lines : List Line) : Except ReportFault Solution :=
  r.readFrom 0 r.start lines

/-- Read a report given by its bytes, with the warning for a refused one. -/
def read (r : ReportReader σ) (bytes : List UInt8) : Logged (Except Error Solution) :=
  match r.readLines (fileLines bytes) with
  | .ok solution => .silent (.ok solution)
  | .error fault => ⟨.error (fault.toError r.solver), fault.entries r.solver⟩

end ReportReader

end LinearProgram
