import LinearProgram.Digest
import LinearProgram.Script.Utility.Target

/-!
Utilities that work on files and directories as a whole.

* `rm`, `unlink`, `touch`: files go and come.
* `mkdir`, `rmdir`: so do directories.
* `chmod`: whether a file can be run.
* `ls`, `readlink`, `realpath`, `mktemp`, `cmp`, `md5sum`: what there is.
-/

namespace LinearProgram

namespace Script

namespace Utility

/-! ### Removals -/

/-- Remove all that is in a directory, the innermost things first. The number bounds how deeply directories are
nested. -/
def removeIn (o : Options) : Nat → Place → ByteText → Shell Unit
  | 0, _, _ => pure ()
  | depth + 1, place, path => do
    for n in (← Shell.files).namesIn place do
      let inner := place ++ [n]
      let innerPath := inside path (.ofString n)
      let isDirectory := (← Shell.files).node? inner = some .directory
      if isDirectory then removeIn o depth inner innerPath
      Shell.setFiles ((← Shell.files).erase inner)
      let told := if isDirectory then "removed directory " else "removed "
      discard (tellDone o 0 (told.toList ++ quotedPath innerPath))

/-- Remove what is at a path. What is found behind a link with a slash cannot be removed, though what is in it can. -/
def removeAt (name : ByteText) (o : Options) (path : ByteText) : Shell Nat := do
  let seen ← Shell.path path
  let deep := o.has 'r' || o.has 'R'
  let refused (fault : FileFault) : Shell Nat := do
    if o.has 'f' && (fault = .notFound || fault = .notADirectory) then pure 0
    else
      complainOf name "cannot remove" path fault
      pure 1
  let isBehindLink := hasSlash path && (← isLinkAt path)
  match (← Shell.files).findLink seen with
  | .error fault => refused (if isBehindLink then .notADirectory else fault)
  | .ok (place, .directory) =>
    let last := lastNameOf path
    if deep && (last = ['.'] || last = ['.', '.']) then
      refuse name ("refusing to remove '.' or '..' directory: skipping ".toList ++ quotedPath path) 1
    else if deep then
      removeIn o deepest place (if isBehindLink then withoutSlashes path else path)
      if isBehindLink then refused .notADirectory
      else
        Shell.setFiles ((← Shell.files).eraseAll place)
        tellDone o 0 ("removed directory ".toList ++ quotedPath path)
    else if o.has 'd' then
      match (← Shell.files).removeDirectory seen with
      | .ok fs =>
        Shell.setFiles fs
        tellDone o 0 ("removed directory ".toList ++ quotedPath path)
      | .error fault => refused fault
    else refused .isADirectory
  | .ok _ =>
    if isBehindLink then refused .notADirectory
    else
      let code ← attemptChange (fun fs => fs.remove seen) (complainOf name "cannot remove" path)
      tellDone o code ("removed ".toList ++ quotedPath path)

/-- Remove files and directories. -/
def rm : Utility :=
  withOptions "rRfidvI" "" [("recursive", 'r'), ("force", 'f'), ("verbose", 'v'), ("dir", 'd')] 1 fun name o =>
    if o.operands.isEmpty then
      if o.has 'f' then pure 0 else misuse name "missing operand".toList 1
    else forEach o.operands (removeAt name o)

/-- Remove a file. -/
def unlink : Utility :=
  withOptions "" "" [] 1 fun name o => do
    match o.operands with
    | [] => misuse name "missing operand".toList 1
    | [path] =>
      let seen ← Shell.path path
      let isBehindLink := hasSlash path && (← isLinkAt path)
      let change (fs : Files) := if isBehindLink then .error .notADirectory else fs.remove seen
      attemptChange change (complainOf name "cannot unlink" path)
    | _ :: extra :: _ => misuse name ("extra operand ".toList ++ quoted extra) 1

/-! ### Directories -/

/-- Make a directory. -/
def makeAt (name : ByteText) (o : Options) (path : ByteText) : Shell Nat := do
  if o.has 'p' then makeAll (pathsAbove path ++ [path])
  else
    let seen ← Shell.path path
    let code ← attemptChange (fun fs => fs.makeDirectory seen) (refused path)
    tellDone o code (name ++ ": created directory ".toList ++ quotedPath path)
where
  /-- Complain about a directory that cannot be made. -/
  refused (path : ByteText) (fault : FileFault) : Shell Unit :=
    complain name ("cannot create directory ".toList ++ quoted path ++ ": ".toList ++ faultText fault)
  /-- The paths above a path, the highest first. -/
  pathsAbove (path : ByteText) : List ByteText :=
    (List.range path.length).filterMap fun n =>
      if n ≠ 0 && path[n]? = some '/' && path[n - 1]? ≠ some '/' then some (path.take n) else none
  /-- Make the directories that are not there yet. -/
  makeAll : List ByteText → Shell Nat
    | [] => pure 0
    | path :: paths => do
      let fs ← Shell.files
      let seen ← Shell.path path
      let refuseAs (fault : FileFault) : Shell Nat := do
        refused path fault
        pure 1
      match fs.makeDirectory seen with
      | .ok fs =>
        Shell.setFiles fs
        discard (tellDone o 0 (name ++ ": created directory ".toList ++ quotedPath path))
        makeAll paths
      | .error fault =>
        match fs.find seen, paths.isEmpty with
        | .ok (_, .directory), _ => makeAll paths
        | .ok _, false => refuseAs .notADirectory
        | .error .tooManyLinks, true =>
          complain name ("cannot stat ".toList ++ quoted path ++ ": ".toList ++ faultText .tooManyLinks)
          pure 1
        | .error .tooManyLinks, false => refuseAs .tooManyLinks
        | _, _ => refuseAs fault

/-- Make directories. -/
def mkdir : Utility :=
  withOptions "pv" "m" [("parents", 'p'), ("mode", 'm'), ("verbose", 'v')] 1 fun name o =>
    if o.operands.isEmpty then misuse name "missing operand".toList 1
    else forEach o.operands (makeAt name o)

/-- Remove a directory with nothing in it, and tell whether it is gone. -/
def removeEmpty (name : ByteText) (o : Options) (what : String) (path : ByteText) : Shell (Except Nat Unit) := do
  let seen ← Shell.path path
  if o.has 'v' then Shell.sayLine (name ++ ": removing directory, ".toList ++ quotedPath path)
  if lastNameOf path = ['.'] then
    return .error (← refuse name (what.toList ++ [' '] ++ quotedPath path ++ ": Invalid argument".toList) 1)
  match (← Shell.files).removeDirectory seen with
  | .ok fs =>
    Shell.setFiles fs
    return .ok ()
  | .error fault =>
    if fault = .notEmpty && o.has 'I' then return .error 0
    if fault = .notADirectory && hasSlash path && (← isLinkAt path) then
      complain name (what.toList ++ [' '] ++ quotedPath path ++ ": Symbolic link not followed".toList)
    else complainOf name what path fault
    return .error 1

/-- Remove directories with nothing in them. -/
def rmdir : Utility :=
  withOptions "pv" "" [("parents", 'p'), ("verbose", 'v'), ("ignore-fail-on-non-empty", 'I')] 1 fun name o =>
    if o.operands.isEmpty then misuse name "missing operand".toList 1
    else forEach o.operands fun path => do
      match ← removeEmpty name o "failed to remove" path with
      | .ok () => if o.has 'p' then removeAbove name o path.length path else pure 0
      | .error code => pure code
where
  /-- Remove the directories above a path, as long as there is nothing else in them. -/
  removeAbove (name : ByteText) (o : Options) : Nat → ByteText → Shell Nat
    | 0, _ => pure 0
    | steps + 1, path => do
      if !(withoutSlashes path).contains '/' then pure 0
      else
        let above := directoryOf path
        if above = ['/'] then pure 0
        else
          match ← removeEmpty name o "failed to remove directory" above with
          | .ok () => removeAbove name o steps above
          | .error code => pure code

/-! ### Times and permissions -/

/-- Make files that are not there yet. -/
def touch : Utility :=
  withOptions "acmhf" "drt" [("no-create", 'c'), ("date", 'd'), ("reference", 'r'), ("no-dereference", 'h')] 1
    fun name o =>
    if o.operands.isEmpty then misuse name "missing file operand".toList 1
    else forEach o.operands fun path => do
      let seen ← Shell.path path
      let found := (← Shell.files).findWith (!o.has 'h') seen
      let isOld := o.has 'c' || o.has 'h' || hasSlash path
      match found, isOld with
      | .ok _, _ => pure 0
      | .error fault, true =>
        if o.has 'c' && fault = .notFound then pure 0
        else
          complainOf name "setting times of" path fault
          pure 1
      | .error _, false =>
        attemptChange (fun fs => fs.write seen []) fun fault => complainOf name "cannot touch" path fault

/-- Whether a file can be run under a mode that is written with letters, if it could be run before or not. -/
def modeOf? (before : Bool) (clause : ByteText) : Option Bool :=
  let who := clause.takeWhile fun c => "ugoa".toList.contains c
  let changes := clause.drop who.length
  match changes, valueToBase? 8 (changes.drop 1) with
  | [], _ => none
  | sign :: _ :: _, some n =>
    let ways := Nat.land n 73
    if !who.isEmpty then none
    else if sign = '+' then some (before || decide (ways ≠ 0))
    else if sign = '-' then some (before && decide (ways ≠ 73))
    else if sign = '=' then some (decide (ways ≠ 0))
    else none
  | changes, _ => (changes.foldlM step (before, ' ')).map Prod.fst
where
  /-- One character of what is changed, the sign of the change being known. -/
  step (state : Bool × Char) (c : Char) : Option (Bool × Char) :=
    if c = '+' || c = '-' then some (state.1, c)
    else if c = '=' then some (false, c)
    else if state.2 = ' ' || !"rwxXstugo".toList.contains c then none
    else if c = 'x' then some (state.2 ≠ '-', state.2)
    else some state

/-- Whether a file can be run under a mode, if it could be run before or not. -/
def executableUnder? (mode : ByteText) (before : Bool) : Option Bool :=
  if !mode.isEmpty && mode.all isDigit then
    (valueToBase? 8 mode).map fun n => decide (Nat.land n 73 ≠ 0)
  else (pieces (fun c => c = ',') mode).foldlM modeOf? before

/-- Whether an argument of `chmod` is a mode, though it begins like an option. -/
def isModeOption : ByteText → Bool
  | '-' :: cs => ((cs.dropWhile fun c => "Rcfv".toList.contains c).head?.map fun c =>
      "rwxXstugoa,+=01234567".toList.contains c).getD false
  | _ => false

/-- Change whether files can be run under a mode, those too that are in directories if `deep` is set. The number
bounds how deeply directories are nested. -/
def changeModes (mode : ByteText) (deep : Bool) : Nat → Thing → Shell Unit
  | 0, _ => pure ()
  | depth + 1, (place, node) => do
    let fs ← Shell.files
    match node with
    | .file number =>
      let f := fs.stored number
      Shell.setFiles (fs.change number { f with executable := (executableUnder? mode f.executable).getD false })
    | .directory =>
      if deep then
        for n in fs.namesIn place do
          if let some found := fs.node? (place ++ [n]) then changeModes mode deep depth (place ++ [n], found)
    | _ => pure ()

/-- Change whether files can be run. -/
def chmod : Utility := fun name arguments =>
  let early := arguments.takeWhile fun a => a ≠ ['-', '-']
  let modes := early.filter isModeOption
  let others := (early.filter fun a => !isModeOption a) ++ arguments.drop early.length
  let act (name : ByteText) (o : Options) : Shell Nat :=
    match if modes.isEmpty then o.operands else [','].intercalate modes :: o.operands with
    | [] => misuse name "missing operand".toList 1
    | [mode] =>
      misuse name ("missing operand".toList ++ if modes.isEmpty then " after ".toList ++ quoted mode else []) 1
    | mode :: files =>
      if (executableUnder? mode true).isNone then
        misuse name ("invalid mode: ".toList ++ quoted mode) 1
      else forEach files fun path => do
        let seen ← Shell.path path
        match (← Shell.files).find seen with
        | .error fault =>
          if o.has 'f' then pure 1
          else if fault = .notFound && (← isLinkAt path) then
            refuse name ("cannot operate on dangling symlink ".toList ++ quotedPath path) 1
          else
            complainOf name "cannot access" path fault
            pure 1
        | .ok found =>
          changeModes mode (o.has 'R') deepest found
          pure 0
  let long := [("recursive", 'R'), ("changes", 'c'), ("silent", 'f'), ("quiet", 'f'), ("verbose", 'v')]
  withOptions "Rcfv" "" long 1 act name others

/-! ### What there is -/

/-- The names in a directory that are listed. -/
def listed (o : Options) (place : Place) : Shell (List ByteText) := do
  let names := ((← Shell.files).namesIn place).map ByteText.ofString
  let visible := if o.has 'a' || o.has 'A' then names else names.filter fun n => n.head? ≠ some '.'
  return if o.has 'a' then ['.'] :: ['.', '.'] :: visible else visible

/-- The sign that tells what kind of file a name in a directory means. -/
def kindSign (o : Options) (fs : Files) (place : Place) : ByteText :=
  match fs.node? place with
  | some .directory => if o.has 'F' || o.has 'p' then ['/'] else []
  | some (.link _) => if o.has 'F' then ['@'] else []
  | some (.device _) => []
  | some (.file number) => if o.has 'F' && (fs.stored number).executable then ['*'] else []
  | none => []

/-- Names one below the other, or in rows with commas. -/
def listing (o : Options) (names : List ByteText) : ByteText :=
  if !o.has 'm' then unlines names
  else if names.isEmpty then [] else row 0 names
where
  /-- Names in rows of no more than 80 characters, from a column on. -/
  row : Nat → List ByteText → ByteText
    | _, [] => ['\n']
    | column, [n] => n ++ row column []
    | column, n :: m :: ns =>
      let next := column + n.length + 2
      if next + m.length + 1 < 80 then n ++ ", ".toList ++ row next (m :: ns)
      else n ++ ",\n".toList ++ row 0 (m :: ns)

/-- What is listed of a directory at a path and of those in it, up to a depth. -/
def directoryListings (o : Options) (headed : Bool) : Nat → ByteText → Shell (List ByteText)
  | 0, _ => pure []
  | depth + 1, path => do
    let fs ← Shell.files
    let place := match fs.find (← Shell.path path) with
      | .ok (place, _) => place
      | .error _ => []
    let names : List ByteText ← listed o place
    let names : List ByteText := if o.has 'r' then names.reverse else names
    let shown := names.map fun n => n ++ kindSign o fs (place ++ [ByteText.string n])
    let text := (if headed then path ++ ":\n".toList else []) ++ listing o shown
    if !o.has 'R' then return [text]
    let isDirectory (n : ByteText) : Bool := fs.node? (place ++ [ByteText.string n]) = some .directory
    let inner := names.filter fun n => n ≠ ['.'] && n ≠ ['.', '.'] && isDirectory n
    let below ← inner.mapM fun n =>
      directoryListings o headed depth (if path.getLast? = some '/' then path ++ n else path ++ '/' :: n)
    return text :: below.flatten

/-- List files and what is in directories. -/
def ls : Utility :=
  withOptions "1aAbBcCdfFghHikLlmnNopqQrRsStuUvxXZG" "ITw" [("all", 'a'), ("almost-all", 'A'), ("directory", 'd'),
      ("color", 'N'), ("reverse", 'r'), ("recursive", 'R'), ("classify", 'F')] 2 fun name o => do
    let fs ← Shell.files
    let found ← (if o.operands.isEmpty then [['.']] else o.operands).mapM fun path => do
      let seen ← Shell.path path
      let followed := fs.find seen
      let asItIs := !o.has 'L' && !o.has 'H' && (o.has 'F' || o.has 'd' || match followed with
        | .error .notFound => true
        | .error .tooManyLinks => true
        | _ => false)
      return (path, if asItIs then fs.findLink seen else followed)
    let code ← forEach found fun (path, result) => do
      match result with
      | .error fault =>
        complainOf name "cannot access" path fault
        pure 2
      | .ok _ => pure 0
    let found := if o.has 'U' || o.has 'f' then found else found.mergeSort fun a b => ByteText.inOrder a.1 b.1
    let isDir (e : ByteText × Except FileFault (Place × Node)) : Bool := match e.2 with
      | .ok (_, .directory) => !o.has 'd'
      | _ => false
    let files := found.filterMap fun e => match e.2 with
      | .ok (place, _) => if isDir e then none else some (e.1 ++ kindSign o fs place)
      | .error _ => none
    let directories := (found.filter isDir).map Prod.fst
    let order (names : List ByteText) : List ByteText := if o.has 'r' then names.reverse else names
    Shell.say (listing o (order files))
    let texts ← (order directories).mapM (directoryListings o (decide (1 < found.length) || o.has 'R') 100)
    if !files.isEmpty && !texts.isEmpty then Shell.say ['\n']
    Shell.say (['\n'].intercalate texts.flatten)
    pure code

/-- The place of a path of which some names need not lead anywhere. -/
def missingPlace (fs : Files) : List String → Place
  | [] => []
  | name :: above =>
    let whole := (name :: above).reverse
    match fs.locate (Files.pathThrough whole) with
    | .ok place => place
    | .error _ =>
      let front := missingPlace fs above
      if name = "" || name = "." then front else if name = ".." then front.dropLast else front ++ [name]

/-- The place that a path comes to under options: all of it must exist, or all but its last name, or nothing. -/
def placeUnder (existing missing : Bool) (path : String) : Shell (Except FileFault Place) := do
  let fs ← Shell.files
  match fs.locate path with
  | .ok place => pure (if existing && (fs.node? place).isNone then .error .notFound else .ok place)
  | .error fault =>
    pure (if missing && path ≠ "" then .ok (missingPlace fs (Files.namesOf path).reverse) else .error fault)

/-- Tell where a link leads. -/
def readlink : Utility :=
  withOptions "femnqsvz" "" [("canonicalize", 'f'), ("canonicalize-existing", 'e'), ("canonicalize-missing", 'm'),
      ("no-newline", 'n'), ("verbose", 'v'), ("zero", 'z')] 1 fun name o => do
    if o.operands.isEmpty then return ← misuse name "missing operand".toList 1
    let several := decide (1 < o.operands.length)
    if o.has 'n' && several then complain name "ignoring --no-newline with multiple arguments".toList
    let ending : ByteText := if o.has 'n' && !several then [] else if o.has 'z' then ['\x00'] else ['\n']
    forEach o.operands fun path => do
      let seen ← Shell.path path
      let refuseAs (fault : ByteText) : Shell Nat := do
        if o.has 'v' then complain name (shownPath path ++ ": ".toList ++ fault)
        pure 1
      if o.has 'f' || o.has 'e' || o.has 'm' then
        match ← placeUnder (o.has 'e') (o.has 'm') seen with
        | .ok place =>
          Shell.say (.ofString (Shell.placeText place) ++ ending)
          pure 0
        | .error fault => refuseAs (faultText fault)
      else
        match (← Shell.files).findLink seen with
        | .ok (_, .link target) =>
          Shell.say (.ofString target ++ ending)
          pure 0
        | .ok _ => refuseAs "Invalid argument".toList
        | .error fault => refuseAs (faultText fault)

/-- Tell the places of paths. -/
def realpath : Utility :=
  withOptions "emsqLPz" "" [("canonicalize-missing", 'm'), ("canonicalize-existing", 'e'), ("strip", 's'),
      ("no-symlinks", 's'), ("quiet", 'q'), ("logical", 'L'), ("zero", 'z')] 1 fun name o =>
    if o.operands.isEmpty then misuse name "missing operand".toList 1
    else forEach o.operands fun path => do
      let seen ← Shell.path path
      let seen := if o.has 's' || o.has 'L' then Files.plainPath seen else seen
      let found ← if path.isEmpty then pure (.error .notFound) else placeUnder (o.has 'e') (o.has 'm') seen
      match found with
      | .ok place =>
        let shown := if o.has 's' then seen else Shell.placeText place
        Shell.say (.ofString shown ++ (if o.has 'z' then ['\x00'] else ['\n']))
        pure 0
      | .error fault =>
        if !o.has 'q' then complainOfPath name path fault
        pure 1

/-- A template of paths: what stands in front of the characters that are chosen, how many those are, and what stands
behind them. -/
structure Template where
  front : ByteText
  width : Nat
  behind : ByteText

/-- The template that a text writes, with an ending that is given apart. -/
def Template.ofText (t : ByteText) (ending : Option ByteText) : Template :=
  let behind := ending.getD (t.reverse.takeWhile fun c => c ≠ 'X').reverse
  let whole := if ending.isSome then t else if t.contains 'X' then t.take (t.length - behind.length) else t
  let width := (whole.reverse.takeWhile fun c => c = 'X').length
  ⟨whole.take (whole.length - width), width, if ending.isSome || t.contains 'X' then behind else []⟩

/-- A template as it is written. -/
def Template.text (t : Template) : ByteText := t.front ++ List.replicate t.width 'X' ++ t.behind

/-- The path with a number that a template stands for. -/
def Template.path (t : Template) (number : Nat) : ByteText :=
  let digits := ByteText.ofNat number
  t.front ++ List.replicate (t.width - digits.length) '0' ++ digits ++ t.behind

/-- Make a temporary file or directory and tell its path. -/
def mktemp : Utility :=
  withOptions "dqut" "ps" [("directory", 'd'), ("quiet", 'q'), ("dry-run", 'u'), ("tmpdir", 'T'), ("suffix", 's')] 1
    fun name o => do
    let refused (complaint : ByteText) : Shell Nat := do
      if !o.has 'q' then complain name complaint
      pure 1
    let home := ((← Shell.valueOf "TMPDIR".toList).filter fun t => !t.isEmpty).getD "/tmp".toList
    let given := ((o.value? 'p').orElse fun _ => o.value? 'T').filter fun t => !t.isEmpty
    let written := o.operands.headD "tmp.XXXXXXXXXX".toList
    let ending := o.value? 's'
    let template := Template.ofText written ending
    let isInside := o.has 'p' || o.has 'T' || o.has 't' || o.operands.isEmpty
    if 1 < o.operands.length then misuse name "too many templates".toList 1
    else if ending.isSome && written.getLast? ≠ some 'X' then
      refused ("with --suffix, template ".toList ++ quoted written ++ " must end in X".toList)
    else if template.behind.contains '/' then
      refused ("invalid suffix ".toList ++ quoted template.behind ++ ", contains directory separator".toList)
    else if template.width < 3 then refused ("too few X's in template ".toList ++ quoted template.text)
    else if o.has 't' && written.contains '/' then
      refused ("invalid template, ".toList ++ quoted template.text ++ ", contains directory separator".toList)
    else if isInside && written.head? = some '/' then
      let why := "; with --tmpdir, it may not be absolute"
      refused ("invalid template, ".toList ++ quoted template.text ++ why.toList)
    else
      let parent := if o.has 't' && (← Shell.valueOf "TMPDIR".toList).isSome then home else given.getD home
      let template := if isInside then { template with front := inside parent template.front } else template
      let tries := List.range 1000
      let seen ← tries.mapM fun n => Shell.path (template.path n)
      let fs ← Shell.files
      let chosen := template.path (((tries.zip seen).find? fun e => !fs.holds e.2).map Prod.fst |>.getD 0)
      let path ← Shell.path chosen
      let made := if o.has 'u' then .ok fs else if o.has 'd' then fs.makeDirectory path else fs.write path []
      match made with
      | .ok fs =>
        Shell.setFiles fs
        Shell.sayLine chosen
        pure 0
      | .error fault =>
        let what := if o.has 'd' then "directory" else "file"
        refused ("failed to create ".toList ++ what.toList ++ " via template ".toList ++ quoted template.text
          ++ ": ".toList ++ faultText fault)

/-- The number of the first byte that differs in two texts, with the number of its line. -/
def firstDifference : Nat → Nat → ByteText → ByteText → Option (Nat × Nat)
  | byte, line, a :: as, b :: bs =>
    if a = b then firstDifference (byte + 1) (if a = '\n' then line + 1 else line) as bs else some (byte, line)
  | _, _, _, _ => none

/-- Fail because `cmp` is called in a wrong way. -/
def misuseOfCmp (name complaint : ByteText) : Shell Nat := do
  complain name complaint
  complain name ("Try '".toList ++ name ++ " --help' for more information.".toList)
  pure 2

/-- Compare two files, or a file with the input. -/
def cmp : Utility := fun name arguments => do
  match Options.read? "slbc" "in" [("silent", 's'), ("quiet", 's'), ("verbose", 'l'), ("bytes", 'n')] arguments with
  | .error complaint => misuseOfCmp name complaint
  | .ok o =>
    match o.operands with
    | [] => misuseOfCmp name ("missing operand after ".toList ++ enclosed name)
    | [a] => compare name o a ['-']
    | [a, b] => compare name o a b
    | _ => misuseOfCmp name ("invalid --ignore-initial value ".toList ++ enclosed (o.operands[2]?.getD []))
where
  /-- Compare the texts of two paths. -/
  compare (name : ByteText) (o : Options) (a b : ByteText) : Shell Nat := do
    match ← Shell.contentOf a, ← Shell.contentOf b with
    | .ok s, .ok t =>
      match firstDifference 1 1 s t with
      | some (byte, line) =>
        if !o.has 's' then
          Shell.sayLine (a ++ [' '] ++ b ++ " differ: byte ".toList ++ .ofNat byte ++ ", line ".toList ++ .ofNat line)
        pure 1
      | none =>
        if s = t then pure 0
        else
          let (short, text) := if s.length < t.length then (a, s) else (b, t)
          if !o.has 's' then
            if text.isEmpty then complain name ("EOF on ".toList ++ short ++ " which is empty".toList)
            else
              let lines := text.count '\n'
              let place := if text.getLast? = some '\n' then ", line ".toList ++ ByteText.ofNat lines
                else ", in line ".toList ++ ByteText.ofNat (lines + 1)
              complain name ("EOF on ".toList ++ short ++ " after byte ".toList ++ .ofNat text.length ++ place)
          pure 1
    | .error fault, _ =>
      complain name (a ++ ": ".toList ++ faultText fault)
      pure 2
    | _, .error fault =>
      complain name (b ++ ": ".toList ++ faultText fault)
      pure 2

/-- Tell the digests of files. -/
def md5sum : Utility :=
  withOptions "btcz" "" [] 1 fun name o =>
    withContents o.operands (complainOfPath name)
      (fun path content => do
        Shell.sayLine ((Digest.ofBytes content.toBytes).hex.toList ++ "  ".toList ++ path)
        pure 0) 1

end Utility

end Script

end LinearProgram
