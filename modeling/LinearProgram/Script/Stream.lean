import LinearProgram.Script.Job
import LinearProgram.Script.Numeral

/-!
What processes read and write, and their parameters.

* `Shell.write`, `Shell.readAll`, `Shell.readLine`: text through streams.
* `Shell.complain`, `Shell.fail`: complaints.
* `Shell.openPath`: a stream to a file.
* `Shell.valueOf`, `Shell.assign`: parameters.
-/

namespace LinearProgram

namespace Script

namespace Shell

/-! ### Streams -/

/-- A new channel. -/
def addChannel (c : Channel) : Shell Nat := do
  let index := (← get).world.channels.size
  modifyWorld fun w => { w with channels := w.channels.push c }
  pure index

/-- Forget the channels that are newer than the given number of them. -/
def dropChannels (count : Nat) : Shell Unit := modifyWorld fun w => w.withChannels count

/-- The channel of a stream, with its index. -/
def channel? (stream : Nat) : Shell (Option (Nat × Channel)) := do
  let p ← get
  return do
    let index ← p.streams.lookup stream
    return (index, ← p.world.channels[index]?)

/-- Lead a stream to a channel. -/
def connect (stream index : Nat) : Shell Unit :=
  modify fun p => { p with streams := (stream, index) :: p.streams.filter fun s => s.1 ≠ stream }

/-- Close a stream. -/
def close (stream : Nat) : Shell Unit :=
  modify fun p => { p with streams := p.streams.filter fun s => s.1 ≠ stream }

/-- Put another channel in the place of the one with an index. -/
def setChannel (index : Nat) (c : Channel) : Shell Unit :=
  modifyWorld fun w => { w with channels := w.channels.set! index c }

/-- The signal for a process that writes what nobody reads. -/
def brokenSignal : Nat := 13

/-- The signal for a process that makes a file too long. -/
def excessSignal : Nat := 25

/-- Write a text to the file that a channel leads to, and tell what is wrong if it cannot be written. -/
def writeFile (index : Nat) (c : Channel) (text : ByteText) : Shell (Option FileFault) := do
  let p ← get
  let room := (p.limits.fileSize.map fun limit => limit - c.end_ p.world.files).getD text.length
  let (c, files) := c.written p.world.files p.world.elapsed (text.take room)
  modifyWorld fun w => { w with files, channels := w.channels.set! index c }
  if text.length ≤ room then pure none
  else
    reach true p.number excessSignal
    pure (some .fileTooLarge)

/-- Write a text to the channel with an index, and tell what is wrong if it cannot be written. A process that writes
to a pipe that takes up nothing more is ended. -/
def writeChannel (index : Nat) (text : ByteText) : Shell (Option FileFault) := do
  let p ← get
  let time := p.world.elapsed
  if text.isEmpty then pure none
  else
    match p.world.channels[index]? with
    | some (.pipe pipe) =>
      if pipe.refuses time then
        setChannel index (.pipe { pipe with supply := .stopped })
        throw (.killed p.number brokenSignal)
      else
        setChannel index (.pipe (pipe.add time text))
        pure none
    | some c =>
      if !c.isWritable then pure (some .wrongWay)
      else
        match c with
        | .device d _ => pure (if d = .full then some .noSpace else none)
        | c => writeFile index c text
    | none => pure (some .badDescriptor)

/-- Write a text to a stream, and tell what is wrong if it cannot be written. -/
def put (stream : Nat) (text : ByteText) : Shell (Option FileFault) := do
  match (← get).streams.lookup stream with
  | some index => writeChannel index text
  | none => pure (if text.isEmpty then none else some .badDescriptor)

/-- Write a text to a stream. That the output cannot be written is put down. -/
def write (stream : Nat) (text : ByteText) : Shell Unit := do
  if let some fault ← put stream text then
    if stream = 1 then modify fun p => { p with unsaid := some fault }

/-- Write a text to the output. -/
def say (text : ByteText) : Shell Unit := write 1 text

/-- Write a line to the output. -/
def sayLine (text : ByteText) : Shell Unit := write 1 (text ++ ['\n'])

/-- Write a line to the stream for errors. -/
def warn (text : ByteText) : Shell Unit := write 2 (text ++ ['\n'])

/-- Take a number of characters from the channel with an index, waiting for them; `beyond` tells whether more would be
taken. -/
def takeFrom (index : Nat) (c : Channel) (n : Nat) (beyond : Bool) : Shell Unit := do
  let c := c.taking n beyond
  setChannel index c
  match c with
  | .pipe p => waitUntil (p.timeOf beyond)
  | _ => pure ()

/-- Take a part of what is left to be read from a stream. Its length is told by `extent`, or it is all that is left,
and more if there were. -/
def readPart (stream : Nat) (extent : ByteText → Option Nat) : Shell ByteText := do
  match (← channel? stream).filter fun e => e.2.isReadable with
  | some (index, c) =>
    let left := c.left (← files)
    let n? := extent left
    let n := n?.getD left.length
    takeFrom index c n n?.isNone
    pure (left.take n)
  | none => pure []

/-- Take all that is left to be read from a stream. -/
def readAll (stream : Nat) : Shell ByteText := readPart stream fun _ => none

/-- Take the next line from a stream, with its end if it has one. -/
def readLine (stream : Nat) : Shell ByteText := do
  match (← channel? stream).filter fun e => e.2.isReadable with
  | some (index, c) =>
    let line := c.line (← files)
    takeFrom index c line.length (line.getLast? ≠ some '\n')
    pure line
  | none => pure []

/-- Take what is needed of what is left to be read from a stream, as long as `needed` tells, or all that is left, and
more if there were. From a pipe comes what there is in blocks of a length. -/
def readNeeded (stream block : Nat) (needed : ByteText → Option Nat) : Shell ByteText := do
  let time := (← get).world.elapsed
  match ← channel? stream with
  | some (_, .pipe p) =>
    let extent (left : ByteText) : Option Nat := (needed left).map fun n =>
      let known := p.sizeAt (max time ((p.advance n false).timeOf false)) - p.taken
      min (max n known) ((n + block - 1) / block * block)
    readPart stream extent
  | _ => readPart stream needed

/-- Tell that what is missing from a stream has not been needed. -/
def spare (stream : Nat) : Shell Unit := do
  match ← channel? stream with
  | some (index, .pipe p) => if p.supply = .missed then setChannel index (.pipe { p with supply := .stopped })
  | _ => pure ()

/-- Give back the last characters that have been taken from a stream, if it leads to a file. -/
def giveBack (stream count : Nat) : Shell Unit := do
  match ← channel? stream with
  | some (index, .file number offset opening) => setChannel index (.file number (offset - count) opening)
  | _ => pure ()

/-! ### Complaints -/

/-- Complain, saying who and where. -/
def complain (complaint : ByteText) : Shell Unit := do
  let p ← get
  let who := match p.command with
    | some command => command ++ ": ".toList
    | none => []
  warn (p.name ++ ": ".toList ++ .ofNat p.line ++ ": ".toList ++ who ++ complaint)

/-- Complain, and go no further. -/
def fail {α : Type} (complaint : ByteText) : Shell α := do
  complain complaint
  throw .mistake

/-! ### Paths -/

/-- The text of a place. -/
def placeText (place : Place) : String := "/" ++ "/".intercalate place

/-- A path as seen from the root, for the working directory of the process. -/
def seenFrom (p : Process) (t : ByteText) : String :=
  let s := t.string
  if s = "" || Files.isAbsolute s then s else placeText p.directory ++ "/" ++ s

/-- A path as seen from the root. -/
def path (t : ByteText) : Shell String := return seenFrom (← get) t

/-- The stream that a path stands for. -/
def streamOfPath? (path : ByteText) : Option Nat :=
  match ["/dev/fd/", "/proc/self/fd/"].find? fun directory => directory.toList.isPrefixOf path with
  | some directory =>
    let name := path.drop directory.length
    if !name.isEmpty && name.all isDigit then some (valueOfDigits name) else none
  | none => [("/dev/stdin", 0), ("/dev/stdout", 1), ("/dev/stderr", 2)].lookup (String.ofList path)

/-- Open the file with a number. -/
def openNumber (number : Nat) (opening : Opening) : Shell Nat := do
  if opening = .write then setFiles ((← files).fill number [])
  addChannel (.file number 0 opening)

/-- Open the file at a place. -/
def openPlace (place : Place) (opening : Opening) : Shell (Except FileFault Nat) := do
  let fs ← files
  match fs.node? place, opening with
  | some .directory, .read => .ok <$> addChannel .directory
  | some (.device d), _ => .ok <$> addChannel (.device d opening)
  | none, .read => pure (.error .notFound)
  | _, opening =>
    match fs.openAt place with
    | .error fault => pure (.error fault)
    | .ok (number, fs) =>
      setFiles fs
      .ok <$> openNumber number opening

/-- Open the file at a path, and tell its channel. -/
def openPath (t : ByteText) (opening : Opening) : Shell (Except FileFault Nat) := do
  match (streamOfPath? t).isSome, ← channel? ((streamOfPath? t).getD 0) with
  | true, some (_, .file number ..) => .ok <$> openNumber number opening
  | true, some (index, _) => pure (.ok index)
  | true, none => pure (.error .notFound)
  | false, _ =>
    let fs ← files
    let p ← path t
    match if opening = .read then fs.locate p else fs.locateWritten p with
    | .ok place => openPlace place opening
    | .error fault => pure (.error fault)

/-- Write a text to the file at a path, or do something else if it cannot be opened. -/
def writePath (path : ByteText) (opening : Opening) (text : ByteText) (refused : FileFault → Shell Unit) :
    Shell Nat := do
  match ← openPath path opening with
  | .ok index =>
    discard (writeChannel index text)
    pure 0
  | .error fault =>
    refused fault
    pure 1

/-- Why the input cannot be read: it is a directory, or open for writing, or closed. -/
def inputFault? : Shell (Option FileFault) := return match ← channel? 0 with
  | some (_, .directory) => some .isADirectory
  | some (_, c) => if c.isReadable then none else some .wrongWay
  | none => some .badDescriptor

/-- The content of the file at a path, or of what is left of a stream for a dash. -/
def contentOf (t : ByteText) : Shell (Except FileFault ByteText) := do
  if t = ['-'] then
    match ← inputFault? with
    | some fault => pure (.error fault)
    | none => .ok <$> readAll 0
  else
    match streamOfPath? t with
    | some stream => if (← channel? stream).isNone then pure (.error .notFound) else .ok <$> readAll stream
    | none =>
      let (fs, seen) := (← files, ← path t)
      match fs.device? seen with
      | some d => pure (.ok (Channel.plentyOf d))
      | none => return (fs.read seen).map .ofBytes

/-! ### Parameters -/

/-- The parameter with a name. -/
def parameter? (name : ByteText) : Shell (Option Variable) := return (← get).parameters.lookup name

/-- The value of the parameter with a name. -/
def valueOf (name : ByteText) : Shell (Option ByteText) := return (← parameter? name).bind (·.value)

/-- Put up a parameter, or remove it. -/
def setParameter (name : ByteText) (v : Option Variable) : Shell Unit :=
  modify fun p =>
    let others := p.parameters.filter fun e => e.1 ≠ name
    { p with parameters := match v with
        | some v => (name, v) :: others
        | none => others }

/-- Go by the value that a parameter is about to get: it may tell where programs are, or where options go on. -/
def heed (name value : ByteText) : Shell Unit := do
  if name = "PATH".toList then modify fun p => { p with known := [] }
  if name = "OPTIND".toList then
    match readCount? value with
    | some n => modify fun p => { p with optionPlace := .argument (max n 1) }
    | none => fail ("Illegal number: ".toList ++ value)

/-- Make a parameter what it was before, or what else is wanted. -/
def resetParameter (name : ByteText) (v : Option Variable) : Shell Unit := do
  heed name ((v.bind (·.value)).getD [])
  setParameter name v

/-- Give a parameter a value, after something else if it may have one. -/
def assignAfter (act : Shell Unit) (name value : ByteText) : Shell Unit := do
  let v ← match ← parameter? name with
    | some v => if v.fixed then fail (name ++ ": is read only".toList) else pure v
    | none => pure ⟨none, (← get).options.contains 'a', false⟩
  act
  setParameter name (some { v with value := some value })

/-- Give a parameter a value. -/
def assign (name value : ByteText) : Shell Unit := assignAfter (heed name value) name value

/-- Whether an option is set. -/
def hasOption (letter : Char) : Shell Bool := return (← get).options.contains letter

end Shell

end Script

end LinearProgram
