import LinearProgram.Script.JobControl
import LinearProgram.Script.Program
import LinearProgram.Script.Utility.Runner

/-!
Running commands.

Commands stand inside commands, inside words, and in texts that are only read when they are run. Every function here
is given the function that runs what is inside; `runAt` ties the knot, and its number bounds how deeply commands are
nested when a script runs.

* `whole`: how a process ends.
* `capture`: the output of a command.
* `runText`: the commands of a text, line by line.
* `redirect`: streams that go elsewhere.
* `runSimple`: a simple command, which is a part of the shell, a function or a program.
* `runPipeline`, `runLoop`, `runEach`, `runSelect`, `startJob`: the other commands.
* `runAt`: any command.
-/

namespace LinearProgram

namespace Script

/-- How a command is run. -/
abbrev Runner := Command → Shell Nat

/-! ### Looked-at exit codes and the like -/

/-- Run something whose exit code is looked at. -/
def tested {α : Type} (act : Shell α) : Shell α :=
  Shell.restoring (fun before after => { after with tested := before.tested }) do
    modify fun p => { p with tested := true }
    act

/-- Run something in the name of a command. -/
def inTheNameOf {α : Type} (name : ByteText) (act : Shell α) : Shell α :=
  Shell.restoring (fun before after => { after with command := before.command }) do
    modify fun p => { p with command := some name }
    act

/-- Remember the exit code of a command. -/
def remember (code : Nat) : Shell Nat := do
  modify fun p => { p with lastCode := code }
  pure code

/-! ### Texts -/

/-- How many lines of commands a text may have. -/
def longestText : Nat := 1000000

/-- The first lines of a text, with their ends. -/
def firstLines : Nat → ByteText → ByteText
  | 0, _ => []
  | _, [] => []
  | n + 1, c :: cs => c :: firstLines (if c = '\n' then n else n + 1) cs

/-- Run the commands behind a reader line by line. The exit code is that of the last command. The lines of a file are
shown if an option says so. -/
def runLines (run : Runner) (isFile : Bool) : Nat → Reader → Nat → Shell Nat
  | 0, _, code => pure code
  | lines + 1, r, code => do
    let p ← get
    let shows := isFile && p.options.contains 'v'
    match Reader.next { r with nextLabel := p.world.nextLabel, texts := [], aliases := p.aliases } with
    | .error fault =>
      if shows then Shell.write 2 (firstLines (fault.line + 1 - r.line) r.rest)
      modify fun p => { p with line := fault.line }
      Shell.fail fault.reason.toList
    | .ok (next, behind) =>
      if shows then Shell.write 2 (r.rest.take (r.rest.length - behind.rest.length))
      Shell.modifyWorld fun w => { w with nextLabel := behind.nextLabel, texts := behind.texts ++ w.texts }
      modify fun p => { p with lineRead := behind.line }
      match next with
      | .ended => pure code
      | .blank => runLines run isFile lines behind code
      | .command c => runLines run isFile lines behind (← run c)

/-- Run the commands of a text, which may be that of a file, and in which zero bytes do not count. -/
def runText (run : Runner) (isFile : Bool) (text : ByteText) : Shell Nat := do
  runLines run isFile longestText (.ofText (text.filter fun c => c ≠ '\x00') (← get).world.nextLabel) 0

/-! ### Processes -/

/-- Run something as the whole of a process: whatever ends it gives an exit code, and what is to be done at the end is
done. Signals go on ending what is outside. -/
def whole (run : Runner) (act : Shell Nat) : Shell Nat := do
  let code ← codeOf (← Shell.attempt act)
  discard (remember code)
  match (← get).traps.lookup 0 with
  | none => pure code
  | some action =>
    modify fun p => { p with traps := p.traps.filter (fun e => e.1 ≠ 0), leaving := some code }
    match ← Shell.attempt (runText run false action) with
    | .error (.exit code) => pure code
    | .error .mistake => pure mistakeCode
    | .error (.killed number signal) => throw (.killed number signal)
    | .error .overran => throw .overran
    | _ => pure code
where
  /-- The exit code of a process that has come to its end. -/
  codeOf : Except Halt Nat → Shell Nat
    | .ok code => pure code
    | .error (.exit code) => pure code
    | .error .mistake => pure mistakeCode
    | .error (.return code) => pure (code % 256)
    | .error (.break _) => pure 0
    | .error (.continue _) => pure 0
    | .error h => throw h

/-- The output of a command, which runs in a process of its own. The ends of lines at its end are dropped. -/
def capture (run : Runner) (command : Command) : Shell ByteText := do
  let index ← Shell.addChannel (.pipe (.new none none))
  let number := (← get).world.nextNumber
  let code ← Shell.apart none do
    Shell.connect 1 index
    modify fun p => { p with tested := false }
    whole run (run command)
  Shell.awaitWriters index number
  modify fun p => { p with substitutionCode := some code }
  let text := match (← get).world.channels[index]? with
    | some (.pipe p) => p.left.filter fun c => c ≠ '\x00'
    | _ => []
  Shell.dropChannels index
  pure (text.reverse.dropWhile fun c => c = '\n').reverse

/-! ### Redirections -/

/-- A redirection with its words expanded. -/
inductive Target where
  | file (stream : Nat) (opening : Opening) (path : ByteText)
  | text (stream : Nat) (t : ByteText)
  | copy (stream : Nat) (source : ByteText)

/-- A redirection with its words expanded. -/
def targetOf (run : Runner) : Redirection → Shell Target
  | .file stream opening path => return .file stream opening (← textOf (capture run) path)
  | .here stream label => do
    let word := ((← get).world.texts.lookup label).getD []
    return .text stream (← textOf (capture run) word)
  | .copy stream source => do
    let t ← textOf (capture run) source
    match t with
    | [c] => if c.isDigit || c = '-' then pure (.copy stream t) else refuse
    | _ => refuse
where
  /-- Complain about what is not the number of a stream, on the line up to which commands have been read. -/
  refuse : Shell Target := do
    modify fun p => { p with line := p.lineRead }
    Shell.fail "Syntax error: Bad fd number".toList

/-- What is wrong with a file that a redirection opens. -/
def openingFault (opening : Opening) (fault : FileFault) : ByteText :=
  if fault = .notFound || fault = .notADirectory then
    (if opening = .read then "No such file" else "Directory nonexistent").toList
  else faultText fault

/-- Carry out a redirection. -/
def redirect : Target → Shell Unit
  | .text stream t => do Shell.connect stream (← Shell.addChannel (.pipe (.ofText t)))
  | .copy stream ['-'] => Shell.close stream
  | .copy stream source => do
    match (← get).streams.lookup (valueOfDigits source) with
    | some index => Shell.connect stream index
    | none => Shell.fail (source ++ ": Bad file descriptor".toList)
  | .file stream opening path => do
    if opening = .write && (← Shell.hasOption 'C') && (← isPlainFile path) then
      Shell.fail ("cannot create ".toList ++ path ++ ": File exists".toList)
    match ← Shell.openPath path (if opening = .overwrite then .write else opening) with
    | .ok index => Shell.connect stream index
    | .error fault =>
      let verb := if opening = .read then "cannot open " else "cannot create "
      Shell.fail (verb.toList ++ path ++ ": ".toList ++ openingFault opening fault)
where
  /-- Whether there is a file at a path that holds something of its own. -/
  isPlainFile (t : ByteText) : Shell Bool := do
    match Shell.streamOfPath? t with
    | some stream => return (← Shell.channel? stream).any fun (_, c) => (c matches .file ..)
    | none => return ((← Shell.files).file (← Shell.path t)).toBool

/-- Carry out redirections of streams that are put aside before, one after the other. Where the stream for errors
cannot go is told to nobody, since it has been put aside by then. -/
def redirectAside : Bool → List Target → Shell Unit
  | _, [] => pure ()
  | errorsAside, target :: targets => do
    let (stream, source) := match target with
      | .file stream .. | .text stream _ => (stream, [])
      | .copy stream source => (stream, source)
    let ofErrors := decide (stream = 2)
    if ofErrors && !errorsAside && !source.isEmpty && source ≠ ['2'] then Shell.close 2
    redirect target
    redirectAside (errorsAside || ofErrors) targets

/-- Run something with streams that go elsewhere. If one of them cannot, what is done instead is given. The channels
that are opened for it are gone afterwards. -/
def redirected (run : Runner) (rs : List Redirection) (refused act : Shell Nat) : Shell Nat := do
  let targets ← rs.mapM (targetOf run)
  if targets.isEmpty then act
  else
    let count := (← get).world.channels.size
    let undo (before after : Process) : Process :=
      { after with
        streams := before.streams, world := after.world.withChannels count }
    Shell.restoring undo do
      match ← Shell.attempt (redirectAside false targets) with
      | .ok _ => act
      | .error .mistake => refused
      | .error h => throw h

/-! ### Signals -/

/-- Do what is to be done for signals that have come, in the order of their numbers. -/
def handleSignals (run : Runner) : Shell Unit := do
  let p ← get
  match p.pending with
  | [] => pure ()
  | signals =>
    modify fun p => { p with pending := [] }
    for signal in signals.mergeSort do
      discard (runText run false (((← get).traps.lookup signal).getD []))
      discard (remember p.lastCode)

/-- Run a command, and leave if it fails and an option says so. -/
def checked (run : Runner) (act : Shell Nat) : Shell Nat := do
  let code ← act
  discard (remember code)
  handleSignals run
  let p ← get
  if code ≠ 0 && p.options.contains 'e' && !p.tested then throw (.exit code)
  pure code

/-! ### Jobs -/

/-- Run a command as the last thing that a process does. -/
def runFinally (run : Runner) (command : Command) : Shell Nat := do
  match command with
  | .subshell line inner redirections =>
    modify fun p => { p with line }
    let targets ← redirections.mapM (targetOf run)
    targets.forM redirect
    setFinal inner
    run inner
  | command =>
    setFinal command
    run command
where
  /-- Put down that a command is the last one if it is simple. -/
  setFinal (command : Command) : Shell Unit := modify fun p => { p with final := command matches .simple .. }

/-- Run the command of a job in its process. The signals from the keyboard do nothing to it. -/
def runJob (run : Runner) (number : Nat) (command : Command) : Shell Nat :=
  let ended (signal : Nat) : Shell Nat := throw (.killed number signal)
  Shell.apartWith ended (some number) do
    Shell.connect 0 (← Shell.addChannel (.device .null .read))
    modify fun p => { p with tested := false, ignored := p.ignored ++ [2, 3] }
    whole run (runFinally run command)

/-- The channels that a job writes to, whose streams do not go elsewhere. -/
def outputsOf (streams : List (Nat × Nat)) (command : Command) : List Nat :=
  let elsewhere := match command with
    | .simple _ _ _ redirections => redirections.map streamOf
    | .redirected _ _ redirections => redirections.map streamOf
    | .subshell _ _ redirections => redirections.map streamOf
    | _ => []
  (streams.filter fun s => !elsewhere.contains s.1).map Prod.snd
where
  /-- The stream that a redirection leads elsewhere. -/
  streamOf : Redirection → Nat
    | .file stream .. => stream
    | .here stream _ => stream
    | .copy stream _ => stream

/-- Start a command that is not waited for. -/
def startJob (run : Runner) (command : Command) : Shell Nat := do
  let p ← get
  let number := p.world.nextNumber
  let (slot, world) := p.world.takeSlot p.number
  let perform (s : Scene) : Except Halt Nat × Scene :=
    let (result, q) := (runJob run number command) { p with world := { toScene := s, jobs := [] } }
    (result, q.world.toScene)
  let begun := p.world.elapsed
  let job : Job :=
    { number, owner := p.number, slot, begun, outputs := outputsOf p.streams command, run := perform, first := none
      turns := [], signals := [], wake := begun + Shell.startTime, restless := 0, ending := none
      parts := match command with
        | .pipeline parts => parts.length
        | _ => 1
      reaped := false, waited := false }
  let world := { world with nextNumber := number + 1, jobs := world.jobs ++ [job] }
  set { p with world, background := some number }
  pure 0

/-! ### Programs -/

/-- What a new shell is to do. -/
structure Invocation where
  options : List Char
  /-- A text of commands that is given as an argument. -/
  command : Bool
  /-- Whether commands are read from the input. -/
  fromInput : Bool
  /-- An option that there is not. -/
  unknown : Option ByteText
  operands : List ByteText

namespace Invocation

/-- Put down the option that a letter behind a sign stands for. One that is written out has a name. -/
def withLetter (sign : Char) (name? : Option ByteText) (i : Invocation) (letter : Char) : Invocation :=
  let put (letter : Char) : Invocation :=
    let others := i.options.filter fun c => c ≠ letter
    { i with options := if sign = '-' then others ++ [letter] else others }
  let refuse (t : ByteText) : Invocation := { i with unknown := i.unknown <|> some t }
  match letter, name? with
  | 'c', _ => { i with command := true }
  | 's', _ => { i with fromInput := true }
  | 'o', none => i
  | 'o', some name =>
    match optionNames.lookup (String.ofList name) with
    | some letter => put letter
    | none => if Builtin.silentOptions.contains name then i else refuse ('-' :: 'o' :: ' ' :: name)
  | letter, _ => if optionNames.any fun e => e.2 = letter then put letter else refuse ['-', letter]

/-- What a shell is told by arguments, beyond what it has been told already. -/
def ofArguments (i : Invocation) : Nat → List ByteText → Invocation
  | 0, operands => { i with operands }
  | _, ['-'] :: operands => { i with operands }
  | _, ['-', '-'] :: operands => { i with operands }
  | fuel + 1, (sign :: letters) :: rest =>
    if sign ≠ '-' && sign ≠ '+' then { i with operands := (sign :: letters) :: rest }
    else
      (letters.foldl (withLetter sign rest.head?) i).ofArguments fuel
        (if letters.contains 'o' then rest.drop 1 else rest)
  | _, operands => { i with operands }

end Invocation

/-- The parameters that a new shell does not take over. -/
def freshNames : List ByteText := ["PPID".toList, "IFS".toList, "OPTIND".toList]

/-- Run a shell of its own in the place of the process. -/
def runShell (run : Runner) (name : ByteText) (arguments : List ByteText) : Shell Nat := do
  let i := Invocation.ofArguments ⟨[], false, false, none, []⟩ arguments.length arguments
  let next? := ((← Shell.parameter? "OPTIND".toList).filter (·.exported)).bind (·.value)
  modify fun p =>
    let path := firstPath p
    { p with
      name, path, scriptNumber := p.number, arguments := i.operands, parameters := firstParameters p path
      aliases := [], functions := [], options := i.options, lastCode := 0, line := 0, command := none, tested := false
      depth := 0, loops := 0, bottom := none, saved := [], traps := []
      ignored := p.ignored ++ ((p.traps.filter fun e => e.2.isEmpty).map Prod.fst), pending := []
      background := none, optionPlace := .first, leaving := none, known := [], final := false }
  if let some t := next?.filter fun t => (readCount? t).isNone then return ← refuse ("Illegal number: ".toList ++ t)
  if let some t := i.unknown then return ← refuse ("Illegal option ".toList ++ t)
  match i.command, i.fromInput, i.operands with
  | true, _, [] => refuse "-c requires an argument".toList
  | true, _, text :: operands =>
    modify fun p => { p with name := operands.headD name, arguments := operands.drop 1, line := 1 }
    whole run (runText run false text)
  | false, false, path :: operands =>
    match ← Shell.contentOf path with
    | .error fault =>
      if fault = .isADirectory then pure 0
      else refuse ("cannot open ".toList ++ path ++ ": ".toList ++ openingFault .read fault)
    | .ok text =>
      modify fun p => { p with name := path, arguments := operands, line := 1 }
      whole run (runText run true text)
  | false, _, _ =>
    let text ← Shell.readAll 0
    whole run (runText run true text)
where
  /-- The path of the working directory: the one that is given, if it leads there. -/
  firstPath (p : Process) : String :=
    let given := ((p.parameters.lookup "PWD".toList).filter fun v => v.exported).bind fun v => v.value
    let isRight (path : ByteText) : Bool :=
      path.head? = some '/' && (p.world.files.locate path.string).toOption = some p.directory
    ((given.filter isRight).map ByteText.string).getD (Shell.placeText p.directory)
  /-- The parameters of the new shell. Some are always there, whatever it is given. -/
  firstParameters (p : Process) (path : String) : List (ByteText × Variable) :=
    let isGiven (e : ByteText × Variable) : Bool :=
      isName e.1 && e.2.exported && e.2.value.isSome && !freshNames.contains e.1
    let given := (p.parameters.filter isGiven).map
      fun (n, v) => (n, if n = "PWD".toList then ⟨some (.ofString path), true, false⟩ else { v with fixed := false })
    let fallbacks :=
      [("PATH", ByteText.ofString usualPath, false), ("PWD", .ofString path, true),
       ("PS1", "# ".toList, false), ("PS2", "> ".toList, false), ("PS4", "+ ".toList, false),
       ("OPTIND", ['1'], false), ("IFS", " \t\n".toList, false)]
    let missing := fallbacks.filter fun e => (given.lookup e.1.toList).isNone
    ("PPID".toList, ⟨some (.ofNat p.parentNumber), false, false⟩)
      :: missing.map (fun (name, value, exported) => (name.toList, ⟨some value, exported, false⟩)) ++ given
  /-- Say what is wrong, and end. -/
  refuse (complaint : ByteText) : Shell Nat := do
    Shell.complain complaint
    pure mistakeCode

/-- The exit code of a command that is not there. -/
def notFoundCode : Nat := 127

/-- The exit code of a command that cannot be run. -/
def notExecutableCode : Nat := 126

/-- What a program does in the place of the process. -/
def runCall (run : Runner) : Nat → Call → Shell Nat
  | 0, _ => pure notExecutableCode
  | depth + 1, call => do
    modify fun p => { p with command := none }
    let starter : Starter := fun command arguments => do
      match ← Shell.findCallFor command arguments with
      | .ok call =>
        Shell.sleep Shell.loadTime
        .ok <$> runCall run depth call
      | .error fault => pure (.error fault)
    match call.utility with
    | "env" => Utility.finished "env" call.name (Utility.env starter call.name call.arguments)
    | "nice" => Utility.nice starter call.name call.arguments
    | "nohup" => Utility.nohup starter call.name call.arguments
    | "timeout" => Utility.timeout starter call.name call.arguments
    | "xargs" => Utility.xargs starter call.name call.arguments
    | utility =>
      match Utility.table.lookup utility with
      | some act => Utility.finished utility call.name (act call.name call.arguments)
      | none => runShell run call.name call.arguments

/-- How many programs may each run another one. -/
def deepestCall : Nat := 1000000

/-- Complain about a command that cannot be run, and answer with the exit code that says so. -/
def refuseCommand (command : ByteText) (fault : FileFault) : Shell Nat := do
  let absent := fault = .notFound || fault = .notADirectory
  Shell.complain (command ++ ": ".toList ++ (if absent then "not found".toList else faultText fault))
  pure (if absent || fault = .tooManyLinks || fault = .invalidFilename then notFoundCode else notExecutableCode)

/-- Whether something that cannot be run stands where a command without slashes is looked for. -/
def isObstructed (usual : Bool) (command : ByteText) : Shell Bool := do
  let p ← get
  let given := (← Shell.valueOf "PATH".toList).getD []
  let path := if usual then .ofString usualPath else given
  let isThere (t : ByteText) : Bool := (p.world.files.find (Shell.seenFrom p t)).toBool
  return !command.contains '/' && (pathsFor path command).any isThere

/-- Forget where a program has been found. -/
def forget (command : ByteText) : Shell Unit :=
  modify fun p => { p with known := p.known.filter fun e => e.1 ≠ command }

/-- Remember where a program is found by its name, if it is. What has been found from another working directory is
looked for again if its path does not begin at the root. -/
def learn (command : ByteText) : Shell Unit := do
  if !command.contains '/' then
    match (← get).known.lookup command with
    | some ⟨path, true⟩ =>
      if path.head? = some '/' then
        modify fun p =>
          { p with known := p.known.map fun e => if e.1 = command then (command, ⟨path, false⟩) else e }
      else
        forget command
        add
    | some ⟨_, false⟩ => pure ()
    | none => add
where
  /-- Put down where the program is found. -/
  add : Shell Unit := do
    if let some path ← Shell.commandPath? false command then
      modify fun p => { p with known := p.known ++ [(command, ⟨path, false⟩)] }

/-- Run a program, in the place of the process if that does nothing else afterwards. One that is looked for at the
usual places is not remembered. -/
def runProgram (run : Runner) (isFinal usual : Bool) (command : ByteText) (arguments : List ByteText) :
    Shell Nat := do
  let isKnown := ((← get).known.lookup command).isSome
  if !usual then learn command
  match ← Shell.findCall usual command arguments with
  | .ok call =>
    let load : Shell Nat := do
      Shell.sleep Shell.loadTime
      runCall run deepestCall call
    if isFinal && (← get).traps.all fun e => e.2.isEmpty then load else Shell.apart none load
  | .error fault =>
    if fault = .notFound && !isKnown && (← isObstructed usual command) then
      Shell.complain (command ++ ": Permission denied".toList)
      pure notFoundCode
    else refuseCommand command fault

/-! ### Parts of the shell that run commands -/

/-- Run the arguments as a text of commands. -/
def eval (run : Runner) : Builtin := fun arguments => runText run false (spaced arguments)

/-- Run the commands of a file. -/
def source (run : Runner) : Builtin := fun arguments => do
  match arguments with
  | [] => pure 0
  | name :: _ =>
    let path? ← if name.contains '/' then pure (some name) else
      let p ← get
      let path := (← Shell.valueOf "PATH".toList).getD []
      pure ((pathsFor path name).find? fun t => (p.world.files.file (Shell.seenFrom p t)).toBool)
    match path? with
    | none => Shell.fail (name ++ ": not found".toList)
    | some path =>
      match ← Shell.contentOf path with
      | .error fault => Shell.fail ("cannot open ".toList ++ name ++ ": ".toList ++ openingFault .read fault)
      | .ok text =>
        match ← Shell.attempt (inTheNameOf path (runText run true text)) with
        | .ok code => pure code
        | .error (.return code) => pure code
        | .error h => throw h

/-- Run a program in the place of the process. -/
def exec (run : Runner) : Builtin := fun arguments => do
  match arguments with
  | [] => pure 0
  | command :: arguments =>
    match ← Shell.findCall false command arguments with
    | .ok call =>
      modify fun p => { p with traps := p.traps.filter fun e => e.2.isEmpty && e.1 ≠ 0 }
      Shell.sleep Shell.startTime
      throw (.exit ((← runCall run deepestCall call) % 256))
    | .error fault => throw (.exit (← refuseCommand command fault))

/-- What a command is: words of the language first, then functions, parts of the shell and programs. -/
def describe (usual brief : Bool) (command : ByteText) : Shell Nat := do
  let name := String.ofList command
  let p ← get
  let tell (long : String) (short : ByteText) : Shell Nat :=
    Builtin.sayOrRefuse ((if brief then short else command ++ long.toList) ++ ['\n']) 0
  if keywords.contains name then tell " is a shell keyword" command
  else if let some text := p.aliases.lookup command then
    tell (" is an alias for " ++ String.ofList text) ("alias ".toList ++ Builtin.aliasText (command, text))
  else if (p.functions.lookup command).isSome then tell " is a shell function" command
  else if specialNames.contains name then tell " is a special shell builtin" command
  else if (Builtin.regular.lookup name).isSome || ["command", "hash", "type", "wait"].contains name then
    tell " is a shell builtin" command
  else
    match ← Shell.commandPath? usual command with
    | some path =>
      let isKnown := !usual && (p.known.lookup command).isSome
      if isKnown || isProgram p.world.files (Shell.seenFrom p path) then
        if !usual then learn command
        tell ((if isKnown then " is a tracked alias for " else " is ") ++ String.ofList path) path
      else absent
    | none => absent
where
  /-- There is no such command. -/
  absent : Shell Nat :=
    if brief then pure notFoundCode else Builtin.sayOrRefuse (command ++ ": not found\n".toList) notFoundCode

/-- The number of the shelf on which the shell keeps a name. -/
def shelfOf (name : ByteText) : Nat :=
  (name.foldl (fun n c => n + c.toNat) (16 * ((name.map Char.toNat).headD 0))) % 31

/-- Make sure that there are commands with some names, or tell which programs have been found. -/
def hash : Builtin := fun arguments => do
  let (given, names) ← Builtin.options "r" "" arguments
  if !given.isEmpty then
    modify fun p => { p with known := [] }
    pure 0
  else if names.isEmpty then
    let known := (← get).known
    let shelves := (List.range 31).flatMap fun shelf => known.filter fun e => shelfOf e.1 = shelf
    Builtin.sayOrRefuse (unlines (shelves.map fun e => e.2.path ++ if e.2.stale then ['*'] else [])) 0
  else
    names.foldlM (fun code name => do
      forget name
      let p ← get
      if (p.functions.lookup name).isSome || specialNames.contains (String.ofList name)
          || (Builtin.regular.lookup (String.ofList name)).isSome then pure code
      else if (← Shell.commandPath? false name).isSome then
        learn name
        pure code
      else
        Shell.complain (name ++ ": not found".toList)
        pure 1) 0

/-- Tell what commands are. -/
def typeOf : Builtin := fun arguments =>
  arguments.foldlM (fun code command => return max code (← describe false false command)) 0

/-- The parts of the shell whose failures end a script. -/
def special? (run : Runner) (name : ByteText) : Option Builtin :=
  match String.ofList name with
  | "." => some (source run)
  | "eval" => some (eval run)
  | "exec" => some (exec run)
  | name => Builtin.special.lookup name

/-- The other parts of the shell. -/
def regular? (name : ByteText) : Option Builtin :=
  match String.ofList name with
  | "hash" => some hash
  | "type" => some typeOf
  | name => Builtin.regular.lookup name <|> Builtin.jobControl.lookup name

/-! ### Simple commands -/

/-- What runs a command. -/
inductive Performer where
  /-- A part of the shell, and whether its failures end the script. -/
  | builtin (special : Bool) (name : ByteText) (act : Builtin)
  | function (body : Command)
  /-- A program, perhaps one that is looked for at the usual places. -/
  | program (usual : Bool) (command : ByteText)

/-- What runs a command with a name. -/
def performerOf (run : Runner) (plain : Bool) (name : ByteText) : Shell Performer := do
  let p ← get
  match if plain then none else p.functions.lookup name with
  | some body => pure (.function body)
  | none =>
    match special? run name, regular? name with
    | some act, _ => pure (.builtin (!plain) name act)
    | none, some act => pure (.builtin false name act)
    | none, none => pure (.program false name)

/-- Whether a command in front of a command looks for programs at the usual places, and the words of the command; none
if it has other options. -/
def innerWords? : List ByteText → Option (Bool × List ByteText)
  | [] => some (false, [])
  | word :: words =>
    match word with
    | ['-', '-'] => some (false, words)
    | '-' :: c :: letters =>
      if (c :: letters).all fun d => d = 'p' then (innerWords? words).map fun (_, words) => (true, words) else none
    | _ => some (false, word :: words)

/-- Tell what a command is, if an option asks for it. -/
def tell : Builtin := fun arguments => do
  let (given, operands) ← Builtin.options "pvV" "" arguments
  let has (letter : Char) : Bool := given.any fun e => e.1 = letter
  match operands with
  | [] => pure 0
  | command :: _ => if has 'v' || has 'V' then describe (has 'p') (!has 'V') command else pure 0

/-- What runs a command with its words, and the arguments. The word `command` in front passes over functions. -/
def performer (run : Runner) : Nat → Bool → Bool → List ByteText → Shell (Option (Performer × List ByteText))
  | _, _, _, [] => pure none
  | 0, plain, _, name :: arguments => return some (← performerOf run plain name, arguments)
  | depth + 1, plain, usual, name :: arguments => do
    if name = "command".toList then
      match innerWords? arguments with
      | some (_, []) | none => return some (.builtin false name tell, arguments)
      | some (usual, words) => performer run depth true usual words
    else
      match ← performerOf run plain name with
      | .program _ command => return some (.program usual command, arguments)
      | p => return some (p, arguments)

/-- The most functions that may be run inside one another. -/
def deepestFunction : Nat := 1000

/-- Run a function. Its arguments and its own parameters are gone afterwards. -/
def runFunction (run : Runner) (body : Command) (arguments : List ByteText) : Shell Nat := do
  let before ← get
  if deepestFunction ≤ before.depth then
    Shell.fail ("Maximum function recursion depth (".toList ++ ByteText.ofNat deepestFunction ++ ") reached".toList)
  modify fun p =>
    { p with arguments, optionPlace := .first, depth := p.depth + 1, loops := 0, saved := [] :: p.saved }
  let result ← Shell.attempt (run body)
  let own := (← get).saved.headD []
  modify fun p =>
    { p with
      arguments := before.arguments, optionPlace := before.optionPlace, depth := before.depth
      loops := before.loops, saved := before.saved }
  for (name, v) in own do Shell.resetParameter name v
  match result with
  | .ok code => pure code
  | .error (.return code) => pure code
  | .error h => throw h

/-- Set parameters one after the other, and tell what they are set to. The word for each is expanded when its turn
comes. -/
def setAll (run : Runner) (settings : List (ByteText × Word)) : Shell (List (ByteText × ByteText)) :=
  settings.mapM fun (name, word) => do
    let value ← textOf (capture run) word
    Shell.assign name value
    pure (name, value)

/-- Run something with parameters that are set for as long as it takes, and that programs see. -/
def withSettings (run : Runner) (settings : List (ByteText × Word))
    (act : List (ByteText × ByteText) → Shell Nat) : Shell Nat := do
  let p ← get
  let before := settings.map fun (name, _) => (name, p.parameters.lookup name)
  let result ← Shell.attempt do
    let given ← setAll run settings
    for (name, value) in given do Shell.setParameter name (some ⟨some value, true, false⟩)
    act given
  for (name, v) in before do Shell.resetParameter name v
  match result with
  | .ok code => pure code
  | .error h => throw h

/-- Show a command before it is run, if an option says so. A parameter tells what stands in front. -/
def trace (run : Runner) (streams : List (Nat × Nat)) (settings : List (ByteText × ByteText))
    (words : List ByteText) : Shell Unit := do
  if ← Shell.hasOption 'x' then
    let undo (before after : Process) : Process := { after with streams := before.streams, options := before.options }
    Shell.restoring undo do
      modify fun p => { p with streams, options := p.options.filter fun c => c ≠ 'x' }
      let sign ← textOf (capture run) (wordOfText ((← Shell.valueOf "PS4".toList).getD []))
      Shell.warn (sign ++ spaced (settings.map (fun (name, value) => name ++ '=' :: value) ++ words))

/-- The commands whose arguments may be settings, which are not split. -/
def settingCommands : List String := ["export", "readonly", "local", "alias"]

/-- Whether the words that a command begins with make settings of its arguments. -/
def takesSettings : Nat → List ByteText → Bool
  | 0, _ => false
  | _, [] => false
  | depth + 1, name :: arguments =>
    if name = "command".toList then ((innerWords? arguments).map fun e => takesSettings depth e.2).getD false
    else settingCommands.contains (String.ofList name)

/-- The fields of the words of a command. -/
def commandFields (run : Runner) : List ByteText → List Word → Shell (List ByteText)
  | fields, [] => pure fields
  | fields, word :: words => do
    let setting? := if takesSettings (fields.length + 1) fields then settingOf? word else none
    match setting? with
    | some (name, value) =>
      let t ← textOf (capture run) value
      commandFields run (fields ++ [name ++ '=' :: t]) words
    | none => do
      let own ← fieldsOfWord (capture run) word
      commandFields run (fields ++ own) words

/-- Run a part of the shell. A mistake ends the script only if its failures do. -/
def runBuiltin (special : Bool) (name : ByteText) (act : Builtin) (arguments : List ByteText) : Shell Nat := do
  match ← Shell.attempt (inTheNameOf name (Builtin.heard act arguments)) with
  | .ok code => pure code
  | .error .mistake => if special then throw .mistake else pure mistakeCode
  | .error h => throw h

/-- How many words `command` may stand in front of a command. -/
def mostCommandWords : Nat := 100

/-- Run a simple command. Its words are expanded first, then its streams are led elsewhere, and then parameters are
set. -/
def runSimple (run : Runner) (line : Nat) (settings : List (ByteText × Word)) (words : List Word)
    (redirections : List Redirection) : Shell Nat := do
  let isFinal := (← get).final
  modify fun p => { p with line, substitutionCode := none, final := false }
  Shell.sleep Shell.stepTime
  let fields ← commandFields run [] words
  let performer? ← performer run mostCommandWords false false fields
  let isSpecial := match performer? with
    | some (.builtin special _ _, _) => special
    | _ => false
  let refused : Shell Nat := if isSpecial then throw .mistake else pure mistakeCode
  let streams := (← get).streams
  match performer? with
  | none =>
    redirected run redirections refused do
      let given ← setAll run settings
      if !given.isEmpty then trace run streams given []
      return ((← get).substitutionCode).getD 0
  | some (.builtin special name act, arguments) =>
    let traced (given : List (ByteText × ByteText)) : Shell Nat := do
      trace run streams given fields
      runBuiltin special name act arguments
    let perform : Shell Nat := if special then setAll run settings >>= traced else withSettings run settings traced
    if name = "exec".toList && arguments.isEmpty then
      let targets ← redirections.mapM (targetOf run)
      match ← Shell.attempt (redirectAside false targets) with
      | .ok _ => perform
      | .error .mistake =>
        modify fun p => { p with streams }
        refused
      | .error h => throw h
    else redirected run redirections refused perform
  | some (.function body, arguments) =>
    redirected run redirections refused <| withSettings run settings fun given => do
      trace run streams given fields
      runFunction run body arguments
  | some (.program usual command, arguments) =>
    redirected run redirections refused <| withSettings run settings fun given => do
      trace run streams given fields
      runProgram run isFinal usual command arguments

/-! ### Commands made of commands -/

/-- How a try to run a pipeline goes. -/
inductive Trial where
  | done (code : Nat)
  /-- A pipe has held too little of what is written to it. -/
  | short
  /-- The time is up for the part with a number, but the next one has ended at a time. -/
  | late (part time : Nat)

/-- How many characters a pipe takes up while nothing is read. -/
def pipeRoom : Nat := 65536

/-- How much room there is to be before what a part makes of the beginning of its input is taken for the beginning of
what it makes of all of it. -/
def trustedRoom : Nat := 4 * pipeRoom

/-- The room that is enough for whatever ends at all. -/
def greatestRoom : Nat := 64 * pipeRoom

/-- How many times a pipeline is tried at most. -/
def mostTrials : Nat := 100

/-- What a pipe holds, after its writer has ended at a time. -/
def endPipe (index time : Nat) (stopped : Bool) : Shell Unit := do
  match (← get).world.channels[index]? with
  | some (.pipe p) =>
    match p.supply with
    | .filling .. => Shell.setChannel index (.pipe { p with supply := if stopped then .stopped else .ended time })
    | _ => pure ()
  | _ => pure ()

/-- What is known about the end of the pipe with an index. -/
def supplyOf (index? : Option Nat) : Shell Supply := do
  let channels := (← get).world.channels
  match index?.bind fun index => channels[index]? with
  | some (.pipe p) => pure p.supply
  | _ => pure (.ended 0)

/-- Look for the program in a part of a pipeline before its process is started. -/
def learnPart (run : Runner) (part : Command) : Shell Unit := do
  if let .simple _ _ ([.text false name] :: _) _ := part then
    if isName name then
      if let .program _ name ← performerOf run false name then learn name

/-- Run commands each of which reads what the one before writes. They run at the same time: one that goes on writing
when the next one has ended is stopped. So a pipe is filled up to some room at first, and if who reads it asks for
more, all is done again with more room. -/
def runPipeline (run : Runner) (parts : List Command) : Shell Nat := do
  attempts (← get) mostTrials pipeRoom []
where
  /-- Run the commands with pipes that have some room, and that are read until the given times. -/
  attempts (before : Process) : Nat → Nat → List (Nat × Nat) → Shell Nat
    | 0, _, _ => throw .overran
    | trials + 1, room, closings => do
      let begun := before.world.elapsed
      match ← go room closings begun begun 0 none none parts with
      | .done code =>
        Shell.dropChannels before.world.channels.size
        pure code
      | .short =>
        if greatestRoom ≤ room then throw .overran
        set before
        attempts before trials (4 * room) closings
      | .late part time =>
        set before
        attempts before trials room ((part, time) :: closings)
  /-- Run the commands that read from a channel, the number of the first one being given. The one before it may have
  been too late. -/
  go (room : Nat) (closings : List (Nat × Nat)) (begun latest number : Nat) (late? input : Option Nat) :
      List Command → Shell Trial
    | [] => pure (.done 0)
    | part :: parts => do
      Shell.modifyWorld fun w => { w with elapsed := begun }
      learnPart run part
      let isLast := parts.isEmpty
      let pipe := Pipe.new (some room) (closings.lookup number)
      let output ← if isLast then pure none else some <$> Shell.addChannel (.pipe pipe)
      let before := (← get).world.nextNumber
      let result ← Shell.attempt <| Shell.apart none do
        if let some index := input then Shell.connect 0 index
        if let some index := output then Shell.connect 1 index
        whole run (run part)
      if result matches .error .paused then throw .paused
      if let some index := output then Shell.awaitWriters index before
      let time := (← get).world.elapsed
      let isLate := result matches .error .overran
      if isLate && (isLast || late?.isSome || (closings.lookup number).isSome) then throw .overran
      let missed := (← supplyOf input) = .missed
      if missed && late?.isSome then throw .overran
      if missed && (isLast || room < trustedRoom) then return .short
      if let some late := late? then return .late late time
      if let some index := output then endPipe index time (isLate || missed)
      let stopped := output.isSome && (← supplyOf output) = .stopped
      let latest := if stopped then latest else max latest time
      match result with
      | .error .overran => go room closings begun latest (number + 1) (some number) output parts
      | .error h => throw h
      | .ok code =>
        if isLast then
          Shell.modifyWorld fun w => { w with elapsed := latest }
          pure (.done code)
        else go room closings begun latest (number + 1) none output parts

/-- What a loop does after a round. -/
inductive RoundEnd where
  | next (code : Nat)
  | done (code : Nat)

/-- Run a round of a loop, and catch what ends loops or goes on with their next round. -/
def runRound (act : Shell RoundEnd) : Shell RoundEnd := do
  match ← Shell.attempt act with
  | .ok r => pure r
  | .error (.break n) => if n ≤ 1 then pure (.done 0) else throw (.break (n - 1))
  | .error (.continue n) => if n ≤ 1 then pure (.next 0) else throw (.continue (n - 1))
  | .error h => throw h

/-- Run something inside a loop. -/
def inLoop (act : Shell Nat) : Shell Nat :=
  Shell.restoring (fun before after => { after with loops := before.loops }) do
    modify fun p => { p with loops := p.loops + 1 }
    act

/-- How many rounds a loop may have. -/
def mostRounds : Nat := 1000000000

/-- Run the rounds of a loop as long as there is to be another one. -/
def runRounds (round : Nat → Shell RoundEnd) : Nat → Nat → Shell Nat
  | 0, _ => throw .overran
  | rounds + 1, code => do
    match ← runRound (round code) with
    | .done code => pure code
    | .next code => runRounds round rounds code

/-- Run a command as long as another one succeeds, or until it does. -/
def runLoop (run : Runner) (untilSuccess : Bool) (condition body : Command) : Shell Nat :=
  inLoop (runRounds (fun code => do
    let tried ← tested (run condition)
    if (tried = 0) != untilSuccess then .next <$> run body else pure (.done code)) mostRounds 0)

/-- Run a command once for each of some words. -/
def runEach (run : Runner) (line : Nat) (name : ByteText) (words : List Word) (body : Command) : Shell Nat := do
  modify fun p => { p with line }
  let fields ← fieldsOf (capture run) words
  inLoop (go fields 0)
where
  /-- Run the command for each of some fields. -/
  go : List ByteText → Nat → Shell Nat
    | [], code => pure code
    | field :: fields, _ => do
      let ending ← runRound do
        Shell.assign name field
        .next <$> run body
      match ending with
      | .done code => pure code
      | .next code => go fields code

/-- Run the command of the first branch with a pattern that matches a word. -/
def runSelect (run : Runner) (line : Nat) (subject : Word) (branches : List (List Word × Option Command)) :
    Shell Nat := do
  modify fun p => { p with line }
  let t ← textOf (capture run) subject
  go t branches
where
  /-- Whether a text matches one of some patterns. -/
  matchesAny (t : ByteText) : List Word → Shell Bool
    | [] => pure false
    | pattern :: patterns => do
      if (Pattern.ofMarked (← markedTextOf (capture run) pattern)).accepts t then pure true
      else matchesAny t patterns
  /-- Run the command of the first of some branches that matches a text. -/
  go (t : ByteText) : List (List Word × Option Command) → Shell Nat
    | [] => pure 0
    | (patterns, body) :: branches => do
      if ← matchesAny t patterns then
        match body with
        | some body => run body
        | none => pure 0
      else go t branches

/-- Run a command in a process of its own. -/
def runSubshell (run : Runner) (line : Nat) (inner : Command) (redirections : List Redirection) : Shell Nat := do
  modify fun p => { p with line }
  let targets ← redirections.mapM (targetOf run)
  Shell.apart none (whole run do
    targets.forM redirect
    run inner)

/-- Run a command; `run` runs those inside it. -/
def runWith (run : Runner) : Command → Shell Nat
  | .simple line settings words redirections => checked run (runSimple run line settings words redirections)
  | .sequence first second => do
    discard (run first)
    run second
  | .both first second => do
    let code ← tested (run first)
    if code = 0 then run second else pure code
  | .either first second => do
    let code ← tested (run first)
    if code = 0 then pure code else run second
  | .negated inner => do
    let code ← tested (run inner)
    remember (if code = 0 then 1 else 0)
  | .pipeline parts => checked run (runPipeline run parts)
  | .background line inner => do
    modify fun p => { p with line }
    remember (← startJob run inner)
  | .redirected line inner redirections => do
    modify fun p => { p with line }
    remember (← redirected run redirections (pure mistakeCode) (run inner))
  | .subshell line inner redirections => checked run (runSubshell run line inner redirections)
  | .choice condition body otherwise => do
    let code ← tested (run condition)
    if code = 0 then run body
    else
      match otherwise with
      | some otherwise => run otherwise
      | none => remember 0
  | .loop untilSuccess condition body => do remember (← runLoop run untilSuccess condition body)
  | .each line name words body => do remember (← runEach run line name words body)
  | .select line subject branches => do remember (← runSelect run line subject branches)
  | .define _ name body => do
    forget name
    modify fun p => { p with functions := (name, body) :: p.functions.filter fun f => f.1 ≠ name }
    remember 0

/-- The most commands of a process that may be inside one another. -/
def deepestNesting : Nat := 18000

/-- The signal that ends a process whose commands are too deep inside one another. -/
def overflowSignal : Nat := 11

/-- A process ends whose commands are too deep inside one another. -/
def overflow : Shell Nat := do throw (.killed (← get).number overflowSignal)

/-- Run a command. The number bounds how deeply commands of all processes are nested while they run. -/
def runAt : Nat → Runner
  | 0, _ => overflow
  | depth + 1, command => do
    let p ← get
    match p.bottom with
    | none => modify fun p => { p with bottom := some (depth - deepestNesting) }
    | some bottom => if depth < bottom then discard overflow
    if p.options.contains 'n' then pure 0 else runWith (runAt depth) command

end Script

end LinearProgram
