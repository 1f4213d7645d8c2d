import LinearProgram.Script.Apart
import LinearProgram.Script.Builtin

/-!
Jobs as a script sees them.

A job has a place among those of its owner, the number of which stands behind a percent sign. The newest job is the
current one, and the one before it the previous one. A job that has ended keeps its place until somebody has heard
of it.

* `Builtin.wait`: waiting for jobs.
* `Builtin.jobs`: the states of jobs.
* `Builtin.kill`: signals.
-/

namespace LinearProgram

namespace Script

namespace Builtin

/-! ### Own jobs -/

/-- The jobs of the process, the newest one first. -/
def ownJobs : Shell (List Job) := do
  let p ← get
  return (p.world.jobs.filter fun j => j.owner = p.number).reverse

/-- The job that a text with a percent sign means. -/
def jobOf (t : ByteText) : Shell Job := do
  let own ← ownJobs
  let sign := t.drop 1
  let (found, fault) :=
    if t.head? ≠ some '%' then (none, "No such job: ".toList ++ t)
    else if sign = [] || sign = ['%'] || sign = ['+'] then (own.head?, "No current job".toList)
    else if sign = ['-'] then (own[1]?, "No previous job".toList)
    else if sign.all isDigit then
      (own.find? fun j => j.slot = valueOfDigits sign, "No such job: ".toList ++ t)
    else (none, "No such job: ".toList ++ t)
  match found with
  | some job => pure job
  | none => Shell.fail fault

/-- Put down that a job has been waited for. -/
def noteWaiting (number : Nat) : Shell Unit :=
  Shell.modifyWorld fun w =>
    { w with jobs := w.jobs.map fun j => if j.number = number then { j with reaped := true, waited := true } else j }

/-! ### Waiting -/

/-- Wait for a job, and answer with its exit code, or that of a signal that has come. -/
def waitForJob (number : Nat) : Shell Nat := do
  Shell.awaitJobs (fun w => !w.running.any fun j => j.number = number) mostTurns
  let p ← get
  match p.world.jobs.find? fun j => j.number = number with
  | none => pure 0
  | some job =>
    match job.ending, p.pending with
    | some ending, _ =>
      if let some signal := ending.signal then
        if !job.reaped then Shell.reportSignal signal
      noteWaiting number
      pure ending.code
    | none, signal :: _ => pure (signalCode signal)
    | none, [] => pure 0

/-- Wait for some jobs, or for all of them. -/
def wait : Builtin := fun arguments => do
  let (_, arguments) ← options "" "" arguments
  match arguments with
  | [] => do
    let number := (← get).number
    Shell.awaitJobs (fun w => !w.running.any fun j => j.owner = number) mostTurns
    for job in ← ownJobs do
      if job.ending.isSome then noteWaiting job.number
    match (← ownJobs).any (fun j => j.ending.isNone), (← get).pending with
    | true, signal :: _ => pure (signalCode signal)
    | _, _ => pure 0
  | texts =>
    texts.foldlM (fun _ t => do
      let job? ← if t.head? = some '%' then some <$> jobOf t
        else do
          let n ← number t
          pure ((← ownJobs).find? fun j => j.number = n)
      match job? with
      | none => pure 127
      | some job => waitForJob job.number) 0

/-! ### Lists of jobs -/

/-- The column in which the command of a job would stand. -/
def stateWidth : Nat := 33

/-- The state of a job in words. -/
def stateOf (job : Job) : ByteText :=
  match job.reaped, job.ending with
  | true, some ⟨_, some signal⟩ => (Signal.description signal).toList
  | true, some ⟨0, none⟩ => "Done".toList
  | true, some ⟨code, none⟩ => "Done(".toList ++ ByteText.ofNat code ++ [')']
  | _, _ => "Running".toList

/-- A job in a list. -/
def jobLine (own : List Job) (tellNumber : Bool) (job : Job) : ByteText :=
  let sign := if own.head?.any fun j => j.number = job.number then '+'
    else if own[1]?.any fun j => j.number = job.number then '-' else ' '
  let front := '[' :: ByteText.ofNat job.slot ++ [']', ' ', sign, ' ']
  let number := if tellNumber then ByteText.ofNat job.number ++ [' '] else []
  let line := front ++ number ++ stateOf job
  let blanks := List.replicate (max 1 (stateWidth - line.length)) ' '
  line ++ blanks ++ (List.replicate (job.parts - 1) " | ".toList).flatten ++ ['\n']

/-- Tell the states of some jobs, or of all of them. What has been told of a job that has ended is not told again. -/
def jobs : Builtin := fun arguments => do
  let (given, operands) ← options "lp" "" arguments
  if operands.isEmpty then
    let number := (← get).number
    Shell.modifyWorld fun w => w.reap number
  let own ← ownJobs
  let chosen ← if operands.isEmpty then pure own else operands.mapM jobOf
  let tellNumber := given.any fun e => e.1 = 'l'
  match given.getLast? with
  | some ('p', _) => sayOrRefuse (unlines (chosen.map fun job => ByteText.ofNat job.number)) 0
  | _ =>
    let lines ← chosen.mapM fun job => do
      let line := jobLine (← ownJobs) tellNumber job
      if job.reaped then
        Shell.modifyWorld fun w => { w with jobs := w.jobs.filter fun j => j.number ≠ job.number }
      pure line
    sayOrRefuse lines.flatten 0

/-! ### Signals -/

/-- Say how `kill` is called. -/
def killUsage : Shell Nat :=
  Shell.fail "Usage: kill [-s sigspec | -signum | -sigspec] [pid | job]... or\nkill -l [exitstatus]".toList

/-- List the names of signals. -/
def listSignals (operands : List ByteText) : Shell Nat := do
  match operands with
  | [] =>
    let names := (List.range Signal.last).filterMap fun n => (Signal.name? (n + 1)).map String.toList
    sayOrRefuse (unlines (['0'] :: names)) 0
  | t :: _ =>
    let n ← number t
    let n := if 128 < n then n - 128 else n
    match if n = 0 then none else Signal.name? n with
    | some name => sayOrRefuse (name.toList ++ ['\n']) 0
    | none => Shell.fail ("invalid signal number or exit status: ".toList ++ t)

/-- Send a signal to processes. A job is no group of processes, to which alone a place among the jobs leads. -/
def kill : Builtin := fun arguments => do
  match arguments with
  | [] => killUsage
  | first :: rest =>
    let direct := if first.head? = some '-' then Signal.ofText? (first.drop 1) else none
    let (signal, listing, operands) ← match direct with
      | some signal => pure (some signal, false, rest)
      | none => do
        let (given, operands) ← options "l" "s" arguments
        let chosen ← match (given.filter fun e => e.1 = 's').getLast? with
          | some (_, t) =>
            match Signal.ofText? t with
            | some signal => pure (some signal)
            | none => Shell.fail ("invalid signal number or name: ".toList ++ t)
          | none => pure none
        pure (chosen, given.any fun e => e.1 = 'l', operands)
    if listing then (if signal.isSome then killUsage else listSignals operands)
    else if operands.isEmpty then killUsage
    else
      operands.foldlM (fun code t => do
        let target ← match t with
          | '-' :: t => (fun _ => some 0) <$> number t
          | '%' :: _ => (fun _ => none) <$> jobOf t
          | t => some <$> number t
        if ← (target.map fun n => Shell.signal n (signal.getD 15)).getD (pure false) then pure code
        else
          Shell.complain "No such process\n".toList
          pure 1) 0

/-! ### All of them -/

/-- The commands that have to do with jobs. -/
def jobControl : List (String × Builtin) :=
  [("bg", fun _ => Shell.fail "No current job".toList), ("fg", fun _ => Shell.fail "No current job".toList),
   ("jobs", jobs), ("kill", kill), ("wait", wait)]

end Builtin

end Script

end LinearProgram
