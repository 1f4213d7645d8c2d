import LinearProgram.Script.Utility.Sed.Editing
import LinearProgram.Script.Utility.Sed.Reader

/-!
Editing texts by a script.

* `Piece`, `placeIn`: the pieces of a script, and where in it a fault shows.
* `edit`, `editInPlace`: texts that are edited, and files that are changed.
* `sed`: the utility.
-/

namespace LinearProgram

namespace Script

namespace Utility

/-! ### Texts -/

/-- The lines of the texts of files. If they are separate, each has a first and a last line. -/
def linesOf (lineEnd : Char) (separate : Bool) (texts : List (ByteText × ByteText)) : List Line :=
  let each := texts.map fun (path, content) =>
    let ls := splitAfter lineEnd content
    ls.zipIdx.map fun (l, n) =>
      let ended := l.getLast? = some lineEnd
      ({ text := if ended then l.dropLast else l, ended, path
         isLast := separate && n + 1 = ls.length, isFirst := separate && n = 0 } : Line)
  let all := each.flatten
  all.dropLast ++ (all.drop (all.length - 1)).map fun l => { l with isLast := true }
where
  /-- The parts of a text, each with the character that it ends with. -/
  splitAfter (lineEnd : Char) (t : ByteText) : List ByteText :=
    let parts := pieces (fun c => c = lineEnd) t
    parts.dropLast.map (fun l => l ++ [lineEnd]) ++ (parts.drop (parts.length - 1)).filter fun l => !l.isEmpty

/-- The paths that instructions read from and write to. -/
def pathsIn (is : List Instruction) : List ByteText × List ByteText :=
  (is.filterMap fun i => match i.action with
      | .appendFile path => some path
      | .appendLine path => some path
      | _ => none,
   is.filterMap fun i => match i.action with
      | .writeTo _ path => some path
      | .substitute s => s.target
      | _ => none)

/-- How texts are edited. -/
structure Settings where
  quiet : Bool
  lineEnd : Char
  width : Nat
  instructions : List Instruction

/-- What comes of texts that are edited. -/
structure Edited where
  code : Nat
  text : ByteText
  /-- How much is left over of the text. -/
  left : Nat
  fault : Option String

/-- Edit lines. -/
def edit (s : Settings) (input : List Line) : Shell Edited := do
  let (sources, targets) := pathsIn s.instructions
  let contents ← sources.mapM fun path => do
    return (path, match ← Shell.contentOf path with
      | .ok content => content
      | .error _ => [])
  let plan : Plan := ⟨s.quiet, s.lineEnd, s.width, s.instructions.toArray, fun path => (contents.lookup path).getD []⟩
  let (code, e) := Editing.rounds plan (Editing.patience + input.length) true (.ofLines plan input)
  for path in targets do
    let text := (e.filed.reverse.filterMap fun f => if f.1 = path then some f.2 else none).flatten
    if path = "/dev/stderr".toList then Shell.write 2 text
    else if path ≠ "/dev/stdout".toList then discard (Shell.writePath path .write text fun _ => pure ())
  if !e.input.isEmpty then Shell.spare 0
  let left := e.input.foldl (fun n l => n + l.text.length + (if l.ended then 1 else 0)) 0
  pure ⟨code, e.written.reverse.flatten, left, e.fault⟩

/-- Complain about a file that cannot be edited. -/
def refuseInput (name path : ByteText) (fault : FileFault) : Shell Unit :=
  match fault with
  | .isADirectory | .badDescriptor | .wrongWay =>
    let shown := if path = ['-'] then "stdin".toList else path
    complain name ("read error on ".toList ++ shown ++ ": ".toList ++ faultText fault)
  | fault => complain name ("can't read ".toList ++ path ++ ": ".toList ++ faultText fault)

/-- Edit files in place, and tell the exit code. What comes of a file is a new file at its place; the old one is kept
under a name with the given ending, if that is not empty. -/
def editInPlace (name ending : ByteText) (s : Settings) (paths : List ByteText) : Shell Nat :=
  forEach paths fun path => do
    match ← Shell.contentOf path with
    | .error fault =>
      if fault = .isADirectory then
        complain name ("couldn't edit ".toList ++ path ++ ": not a regular file".toList)
      else refuseInput name path fault
      pure (if fault = .isADirectory then 4 else 2)
    | .ok content =>
      let edited ← edit s (linesOf s.lineEnd false [(path, content)])
      let target ← Shell.path path
      let kept ← Shell.path (keptPath path)
      let change (fs : Files) : Except FileFault Files := do
        let (_, old) ← fs.findLink target
        let fs' ← fs.replace target edited.text.toBytes
        if ending.isEmpty then .ok fs' else .ok (fs'.put (← fs.locateWith false kept) old)
      match change (← Shell.files) with
      | .ok files => Shell.setFiles files
      | .error _ => pure ()
      pure edited.code
where
  /-- The path at which an old file is kept: the ending stands behind its name, or its name for a star in it. -/
  keptPath (path : ByteText) : ByteText :=
    if ending.contains '*' then
      let name := ending.flatMap fun c => if c = '*' then lastNameOf path else [c]
      if name.contains '/' then name else path.take (path.length - (lastNameOf path).length) ++ name
    else path ++ ending

/-! ### The utility -/

/-- A piece of a script: the file that it is from, if it is from one, and its text. -/
structure Piece where
  path : Option ByteText
  text : ByteText

/-- Where a script ends that has been read up to a part of the piece with a number. -/
def placeIn (script : List Piece) (index : Nat) (part : ByteText) : ByteText :=
  match (script[index]?).bind (·.path) with
  | some path => "file ".toList ++ path ++ " line ".toList ++ .ofNat (part.count '\n' + 1) ++ ": ".toList
  | none =>
    let number := ((script.take index).countP fun piece => piece.path.isNone) + 1
    "-e expression #".toList ++ .ofNat number ++ ", char ".toList ++ .ofNat part.length ++ ": ".toList

/-- The exit code for a script that cannot be carried out. -/
def panicCode : Nat := 4

/-- Edit texts, and write what comes of it. -/
def sed : Utility := fun name arguments => do
  let endings := arguments.filterMap fun a =>
    if "--in-place=".toList.isPrefixOf a then some (a.drop 11)
    else if "-i".toList.isPrefixOf a then some (a.drop 2) else none
  let arguments := arguments.map fun a => if "-i".toList.isPrefixOf a then "-i".toList else a
  match Options.read? "nErsuzib" "efl" [("quiet", 'n'), ("silent", 'n'), ("expression", 'e'), ("file", 'f'),
      ("regexp-extended", 'E'), ("in-place", 'i'), ("separate", 's'), ("null-data", 'z'), ("line-length", 'l'),
      ("unbuffered", 'u'), ("binary", 'b'), ("posix", 'p'), ("sandbox", 'S'), ("follow-symlinks", 'F')]
      arguments with
  | .error complaint =>
    complain name complaint
    usage name
  | .ok o =>
    let found ← (o.given.filter fun e => e.1 = 'e' || e.1 = 'f').mapM fun (letter, value) => do
      if letter = 'e' then pure (.ok ⟨none, value⟩)
      else
        match ← Shell.contentOf value with
        | .ok content =>
          pure (.ok ⟨some value, if content.getLast? = some '\n' then content.dropLast else content⟩)
        | .error .isADirectory => pure (.ok ⟨some value, []⟩)
        | .error fault => pure (.error (value, fault))
    match found.findSome? fun s => match s with
        | .error e => some e
        | .ok _ => none with
    | some (path, fault) =>
      refuse name ("couldn't open file ".toList ++ path ++ ": ".toList ++ faultText fault) 1
    | none =>
      let given : List Piece := found.filterMap Except.toOption
      let isFirst := given.isEmpty
      if isFirst && o.operands.isEmpty then usage name
      else
        let script := if isFirst then [⟨none, o.operands.headD []⟩] else given
        let operands := if isFirst then o.operands.drop 1 else o.operands
        match Editor.read (o.has 'E' || o.has 'r') (script.map (·.text)) with
        | .error (reason, some (index, part)) => refuse name (placeIn script index part ++ reason.toList) 1
        | .error (reason, none) => refuse name reason.toList panicCode
        | .ok instructions => carryOut name o (endings.getLast?.getD []) script instructions operands
where
  /-- Edit the texts with instructions. -/
  carryOut (name : ByteText) (o : Options) (ending : ByteText) (script : List Piece)
      (instructions : List Instruction) (operands : List ByteText) : Shell Nat := do
    let isMarked := "#n".toList.isPrefixOf ((script.head?.map (·.text)).getD [])
    let settings : Settings :=
      { quiet := o.has 'n' || isMarked
        lineEnd := if o.has 'z' then '\x00' else '\n'
        width := ((o.value? 'l').map fun t => valueOfDigits (t.takeWhile isDigit)).getD 70
        instructions }
    if o.has 'i' then
      if operands.isEmpty then refuse name "no input files".toList panicCode
      else editInPlace name ending settings operands
    else
      let found ← (if operands.isEmpty then [['-']] else operands).mapM fun path => do
        return (path, ← Shell.contentOf path)
      let failed := found.filterMap fun (path, result) => match result with
        | .error fault => some (path, fault)
        | .ok _ => none
      failed.forM fun (path, fault) => refuseInput name path fault
      let texts := found.filterMap fun (path, result) => result.toOption.map fun content => (path, content)
      let edited ← edit settings (linesOf settings.lineEnd (o.has 's') texts)
      if found.length = 1 && (found.head?.map Prod.fst) = some ['-'] then Shell.giveBack 0 edited.left
      if let some reason := edited.fault then complain name (placeIn script 0 [] ++ reason.toList)
      Shell.say edited.text
      if (← Shell.channel? 1).isNone then modify fun p => { p with unsaid := some .badDescriptor }
      pure (if edited.code = 0 && !failed.isEmpty then (if failed.any fun e => e.1 = ['-'] then 4 else 2)
        else edited.code)
  /-- Tell how the utility is called. -/
  usage (name : ByteText) : Shell Nat := do
    let operands := " [OPTION]... \x7bscript-only-if-no-other-script\x7d [input-file]..."
    Shell.warn ("Usage: ".toList ++ name ++ operands.toList)
    pure 1

end Utility

end Script

end LinearProgram
