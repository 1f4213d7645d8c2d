import LinearProgram.Script.Process
import LinearProgram.Script.Signal

/-!
Time, jobs and signals.

Commands take very little time and `sleep` the time it is told. While a process lets time pass, the jobs have their
turns: the one that has something to do first goes first. A process that is still there when its time is up is killed.

* `World.running`, `World.nextJob?`: the jobs that go on, and the one whose turn is next.
* `World.reap`, `World.takeSlot`: the jobs of a process that have ended, and places for other ones.
* `Shell.giveTurn`, `Shell.catchUp`: jobs that go on up to a time.
* `Shell.sleep`: time that passes, and how a job pauses.
* `Shell.standStill`: a process that is stopped.
* `Shell.signal`: a signal that is sent.
* `Shell.awaitJobs`: jobs that are waited for.
-/

namespace LinearProgram

namespace Script

/-! ### The jobs of a launch -/

namespace World

/-- The jobs that have not ended. -/
def running (w : World) : List Job := w.jobs.filter fun j => j.ending.isNone

/-- What is shared without the channels that are newer than the given number of them. As long as there are jobs, who
know their channels by their places, all of them stay. -/
def withChannels (count : Nat) (w : World) : World :=
  if w.running.isEmpty then { w with channels := w.channels.take count } else w

/-- What is shared with another state of a job. -/
def setJob (job : Job) (w : World) : World :=
  { w with jobs := w.jobs.map fun j => if j.number = job.number then job else j }

/-- What is shared once a process has learnt which of its jobs have ended. -/
def reap (owner : Nat) (w : World) : World :=
  let note (j : Job) : Job := if j.owner = owner && j.ending.isSome then { j with reaped := true } else j
  if w.jobs.isEmpty then w else { w with jobs := w.jobs.map note }

/-- The first place among the jobs of a process that is free or can be had from a job that has been waited for. That
job is forgotten. -/
def takeSlot (owner : Nat) (w : World) : Nat × World :=
  let own := w.jobs.filter fun j => j.owner = owner
  let isOpen (slot : Nat) : Bool := own.all fun j => j.slot ≠ slot || (j.reaped && j.waited)
  let slot := ((List.range own.length).find? fun n => isOpen (n + 1)).getD own.length + 1
  (slot, { w with jobs := w.jobs.filter fun j => !(j.owner = owner && j.slot = slot) })

/-- The job that has something to do first, and when another one has. -/
def nextJob? (w : World) : Option (Job × Option Nat) :=
  let first? := w.running.foldl (fun best j => match best with
    | some (b : Job) => if j.wake < b.wake then some j else some b
    | none => some j) none
  first?.map fun job => (job, ((w.running.filter fun j => j.number ≠ job.number).map (·.wake)).min?)

end World

/-- The least time that a job has before another one has its turn. -/
def leastTurn : Nat := 1000000

/-- How long a job rests that has paused some times with more to do at once. -/
def restAfter (times : Nat) : Nat := Nat.shiftLeft leastTurn (min times 10)

/-- How many turns the jobs may have while a process lets time pass. -/
def mostTurns : Nat := 100000

namespace Shell

/-! ### Signals that come -/

/-- How long a process that has had another one ended may go on itself. -/
def grace : Nat := 5000000

/-- A signal comes for a process that runs or waits. If it ends one that waits and has been sent by the one that runs,
that one may go on for a moment. The first signal that does so counts. -/
def reach (own : Bool) (number signal : Nat) : Shell Unit := do
  let p ← get
  if number = p.number then
    if signal = Signal.goOn then modify fun p => { p with stopped := false }
    match Signal.effect (← actions) signal with
    | .ends => throw (.killed number signal)
    | .stops => modify fun p => { p with stopped := true }
    | .handled => modify fun p => { p with pending := p.pending.filter (fun s => s ≠ signal) ++ [signal] }
    | .ignored => pure ()
  else
    if signal = Signal.goOn then
      modifyWorld fun w => { w with letters := w.letters.filter fun e => e ≠ (number, Signal.stop) }
    match (p.within.lookup number).map fun actions => Signal.effect actions signal with
    | some .ends =>
      if own then modifyWorld fun w => { w with doom := w.doom <|> some (w.elapsed + grace, number, signal) }
      else throw (.killed number signal)
    | some .ignored | none => pure ()
    | _ => modifyWorld fun w => { w with letters := w.letters ++ [(number, signal)] }

/-- A signal goes to the process with a number, if there is one. A job that sends one pauses, so that others can have
their turns. -/
def post (number signal : Nat) : Shell Unit := do
  let p ← get
  if number = p.number || (p.within.lookup number).isSome then reach false number signal
  else
    match p.world.running.find? fun j => j.number = number with
    | some job =>
      modifyWorld fun w => w.setJob { job with signals := job.signals ++ [signal], wake := min job.wake w.elapsed }
    | none =>
      if p.others.contains number then
        modifyWorld fun w => { w with posted := w.posted ++ [(number, signal)], horizon := some w.elapsed }

/-! ### Turns -/

/-- The scene in which a job begins. -/
def firstScene (w : World) (job : Job) (horizon : Option Nat) : Scene :=
  { w.toScene with
    elapsed := job.begun, deadline := none, horizon, turns := [], common := w.channels.size, pause := (0, #[])
    letters := [], posted := [], doom := none }

/-- The state of a job behind a turn. -/
def behindTurn (job : Job) (now : Nat) (horizon : Option Nat) (result : Except Halt Nat) (after : Scene) : Job :=
  match result with
  | .error .paused =>
    let time := after.pause.1
    let isRestless := after.posted.isEmpty && horizon.any fun t => decide (time < t + leastTurn)
    let wake := if !job.signals.isEmpty then now
      else if isRestless then (horizon.getD 0) + restAfter job.restless else time
    { job with wake, restless := if isRestless then job.restless + 1 else 0 }
  | .error (.killed _ signal) => { job with ending := some ⟨128 + signal, some signal⟩ }
  | .ok code => { job with ending := some ⟨code, none⟩ }
  | .error _ => { job with ending := some ⟨1, none⟩ }

/-- Give a job its turn, up to a time if there is one. The time at which the turn ends is told. -/
def giveTurn (job : Job) (horizon : Option Nat) : Shell Nat := do
  let w := (← get).world
  let turn : Turn := ⟨job.wake, w.files, w.channels, job.signals, horizon⟩
  let (first, turns, signals) := match job.first with
    | none => (firstScene w job horizon, [], job.signals)
    | some first => (first, job.turns ++ [turn], [])
  let (result, after) := job.run { first with turns }
  let hasPaused := result matches .error .paused
  let channels := if hasPaused then after.pause.2 else after.channels
  let job := behindTurn { job with first := some first, turns, signals } w.elapsed horizon result after
  modifyWorld fun w => { w with
      files := after.files
      channels := channels.extract 0 first.common ++ w.channels.extract first.common w.channels.size
      nextNumber := max w.nextNumber after.nextNumber }.setJob job
  for (number, signal) in after.posted do post number signal
  if job.ending.isSome then post job.owner Signal.childEnd
  pure (if hasPaused then after.pause.1 else after.elapsed)

/-- Give the jobs their turns up to a time. -/
def catchUp : Nat → Nat → Shell Unit
  | 0, _ => pure ()
  | turns + 1, time => do
    match (← get).world.nextJob? with
    | none => pure ()
    | some (job, other?) =>
      if time < job.wake then pure ()
      else
        discard (giveTurn job (some (min time (max (job.wake + leastTurn) (other?.getD time)))))
        catchUp turns time

/-! ### Time -/

/-- Let the others have their turns up to a time, and tell whether the horizon lies before it. -/
def meetHorizon (time : Nat) : Shell Bool := do
  let w := (← get).world
  if !w.jobs.isEmpty then catchUp mostTurns ((w.horizon.map fun t => min t time).getD time)
  return w.horizon.any fun t => decide (t < time)

/-- Go on with a turn; the given ones follow. -/
def takeTurn (turn : Turn) (turns : List Turn) : Shell Unit := do
  modifyWorld fun w => { w with
      files := turn.files
      channels := turn.channels.extract 0 w.common ++ w.channels.extract w.common w.channels.size
      horizon := turn.horizon, turns, posted := [] }
  let p ← get
  let number := ((p.within.getLast?).map Prod.fst).getD p.number
  for signal in turn.signals do reach false number signal

/-- Let time pass up to a given one. A job pauses at its horizon, and goes on with its turns. -/
def passUntil (time : Nat) : List Turn → Shell Unit
  | [] => do
    if ← meetHorizon time then
      modifyWorld fun w => { w with pause := (time, w.channels) }
      throw .paused
  | turn :: turns => do
    if ← meetHorizon time then
      takeTurn turn turns
      passUntil time turns

/-- Give the jobs their turns until one of them tells a process that stands still to go on. -/
def awaitGoingOn : Nat → Shell Unit
  | 0 => pure ()
  | turns + 1 => do
    let w := (← get).world
    match w.nextJob? with
    | none => pure ()
    | some (job, other?) =>
      if w.deadline.any fun t => decide (t < job.wake) then pure ()
      else
        let turn := (other?.map fun t => max t (job.wake + leastTurn)).toList
        let time ← giveTurn job (w.deadline.toList ++ turn).min?
        if (← get).stopped then awaitGoingOn turns
        else modifyWorld fun w => { w with elapsed := max w.elapsed time }

/-- When a job goes on by itself that stands still: never. -/
def farTime : Nat := 1000000000000000000

/-- Stand still until a signal tells the process to go on, or its time is up. -/
def standStill : List Turn → Shell Unit
  | [] => do
    let w := (← get).world
    if w.horizon.isSome then
      modifyWorld fun w => { w with pause := (farTime, w.channels) }
      throw .paused
    else
      awaitGoingOn mostTurns
      if (← get).stopped then
        modifyWorld fun w => { w with elapsed := w.deadline.getD w.elapsed }
        throw .overran
  | turn :: turns => do
    takeTurn turn turns
    modifyWorld fun w => { w with elapsed := max w.elapsed turn.begun }
    if (← get).stopped then standStill turns

/-- Let time pass. When the time is up, everything ends. A process that stands still does so then. -/
def sleep (nanos : Nat) : Shell Unit := do
  let w := (← get).world
  let wake := w.elapsed + nanos
  let time := (w.deadline.map fun t => min t wake).getD wake
  passUntil time w.turns
  modifyWorld fun w => { w with elapsed := time }
  if let some (end_, number, signal) := w.doom then
    if end_ < time then throw (.killed number signal)
  if w.deadline.any fun t => decide (t ≤ wake) then throw .overran
  if (← get).stopped then standStill (← get).world.turns

/-- The nanoseconds that a command of the shell takes. -/
def stepTime : Nat := 2000

/-- The nanoseconds that it takes to start a process. -/
def startTime : Nat := 200000

/-- The nanoseconds that it takes a process to become a program. -/
def loadTime : Nat := 400000

/-- Wait for a time, unless it has passed. -/
def waitUntil (time : Nat) : Shell Unit := do sleep (time - (← get).world.elapsed)

/-! ### Signals that are sent -/

/-- Send a signal to the process with a number, and tell whether there is one. -/
def signal (number signal : Nat) : Shell Bool := do
  let p ← get
  if number = p.number || (p.within.lookup number).isSome then
    if signal ≠ 0 then reach true number signal
    if (← get).stopped then sleep stepTime
    pure true
  else
    match p.world.jobs.find? fun j => j.number = number with
    | some job =>
      if job.ending.isNone && signal ≠ 0 then
        post number signal
        catchUp mostTurns p.world.elapsed
      let hasOwner := job.owner = p.number || (p.within.lookup job.owner).isSome || p.others.contains job.owner
      pure (job.ending.isNone || (hasOwner && !job.reaped))
    | none =>
      if signal ≠ 0 then post number signal
      pure (p.others.contains number)

/-! ### Waiting -/

/-- Give the jobs their turns until a condition holds, or a signal has come. -/
def awaitJobs (isDone : World → Bool) : Nat → Shell Unit
  | 0 => pure ()
  | turns + 1 => do
    let p ← get
    let w := p.world
    if isDone w || !p.pending.isEmpty then pure ()
    else
      match w.nextJob? with
      | none => pure ()
      | some (job, other?) =>
        let limits := w.deadline.toList ++ w.horizon.toList
        if limits.any fun t => decide (t < job.wake) then sleep (job.wake - w.elapsed)
        else
          let turn := (other?.map fun t => max t (job.wake + leastTurn)).toList
          let time ← giveTurn job (limits ++ turn).min?
          let q ← get
          let hasEnded := q.world.jobs.any fun j => j.number = job.number && j.ending.isSome
          if hasEnded || !q.pending.isEmpty then
            modifyWorld fun w => { w with elapsed := max w.elapsed time }
        awaitJobs isDone turns

/-- Wait for the jobs that have been started since there were processes up to a number, as far as they write to a
channel. -/
def awaitWriters (index number : Nat) : Shell Unit :=
  awaitJobs (fun w => !w.running.any fun j => number ≤ j.number && j.outputs.contains index) mostTurns

end Shell

end Script

end LinearProgram
