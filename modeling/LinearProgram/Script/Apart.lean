import LinearProgram.Script.Stream

/-!
Processes within processes.

* `Shell.restoring`: something that leaves a part of the process as it was.
* `Shell.apartWith`, `Shell.apart`: something that runs in a process of its own.
-/

namespace LinearProgram

namespace Script

/-- The exit code of a script with a mistake. -/
def mistakeCode : Nat := 2

/-- The exit code of a process that a signal has ended. -/
def signalCode (signal : Nat) : Nat := 128 + signal

namespace Shell

/-- Run something, and undo in any case what it has changed of the process. -/
def restoring {α : Type} (undo : Process → Process → Process) (act : Shell α) : Shell α := do
  let before ← get
  let result ← attempt act
  modify (undo before)
  match result with
  | .ok a => pure a
  | .error h => throw h

/-- Tell that a signal has ended a process, unless it is one of those that are passed over. -/
def reportSignal (signal : Nat) : Shell Unit := do
  if signal ≠ 2 && signal ≠ 13 then warn (Signal.description signal).toList

/-- Take the signals that have come while another process was waited for. -/
def takeLetters : Shell Unit := do
  let p ← get
  let own := (p.world.letters.filter fun e => e.1 = p.number).map Prod.snd
  let ended := if Signal.effect (← actions) Signal.childEnd = .handled then [Signal.childEnd] else []
  modify fun p =>
    { p with
      world := { p.world with letters := p.world.letters.filter fun e => e.1 ≠ p.number }
      pending := (p.pending ++ own.filter (fun s => s ≠ Signal.stop) ++ ended).eraseDups
      stopped := p.stopped || own.contains Signal.stop }
  match p.world.doom with
  | some (_, number, signal) => if number = p.number then throw (.killed number signal)
  | none => pure ()

/-- Run something in a process of its own. It may be a job with a number, which nobody waits for. Only the files, the
channels and the time show that it has been there. What is done if a signal ends it is told by `ended`. -/
def apartWith (ended : Nat → Shell Nat) (job? : Option Nat) (act : Shell Nat) : Shell Nat := do
  let outer ← get
  let number := job?.getD outer.world.nextNumber
  if job?.isNone then
    modifyWorld fun w => { (w.takeSlot outer.number).2 with nextNumber := w.nextNumber + 1 }
  let actions ← actions
  let jobs := outer.world.running.map (·.number)
  let result ← attempt do
    modify fun p =>
      { p with
        number, parentNumber := p.number, pending := []
        traps := p.traps.filter fun e => e.2.isEmpty && e.1 ≠ 0
        within := if job?.isSome then [] else (p.number, actions) :: p.within
        others := if job?.isSome then p.number :: p.within.map Prod.fst ++ jobs ++ p.others else p.others }
    sleep startTime
    act
  let world := (← get).world
  let world := { world with doom := world.doom.filter fun d => d.2.1 ≠ number }
  set { outer with world := (world.reap outer.number).withChannels outer.world.channels.size }
  if !(result matches .error .paused) then takeLetters
  match result with
  | .ok code => pure (code % 256)
  | .error (.exit code) => pure code
  | .error .mistake => pure mistakeCode
  | .error (.killed n signal) =>
    if n = number then ended signal else throw (.killed n signal)
  | .error .overran => throw .overran
  | .error .paused => throw .paused
  | .error _ => pure 0

/-- Run something in a process of its own. A signal that ends it is reported. -/
def apart : Option Nat → Shell Nat → Shell Nat :=
  apartWith fun signal => do
    reportSignal signal
    pure (signalCode signal)

end Shell

end Script

end LinearProgram
