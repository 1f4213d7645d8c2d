import LinearProgram.Script.Utility.Target

/-!
Utilities that give files other places, or put what is like them there.

A thing may stand already where a copy is to go. It gives way, takes up what is copied, or is the very thing that is
to be copied, and then nothing is done.

* `Clash`, `copyClash`, `moveClash`: what is to be done about a thing that is in the way.
* `cp`: files and directories that are like others.
* `mv`: files and directories that get other places.
* `ln`: links, and files that get more places.
-/

namespace LinearProgram

namespace Script

namespace Utility

/-! ### Things in the way -/

/-- What is to be done about a thing that stands where another one is to go. -/
inductive Clash where
  /-- It is in the way, like any other thing. -/
  | other
  /-- It is the same thing. -/
  | same
  /-- It is already what it is to become. -/
  | settled

/-- The exit code behind a complaint that two things are the same. -/
def refuseSame (name source target : ByteText) : Shell Nat :=
  refuse name (quotedPath source ++ " and ".toList ++ quotedPath target ++ " are the same file".toList) 1

/-- What is to be done about a thing that stands where a copy is to go, the paths of both being given; `follows` tells
whether links are followed. -/
def copyClash (fs : Files) (o : Options) (follows : Bool) (source target : String) (old new : Thing) : Clash :=
  let (oldLink, newLink) :=
    if follows then ((fs.findLink source).toOption.getD old, (fs.findLink target).toOption.getD new) else (old, new)
  let isPlain := !isLink oldLink && !isLink newLink
  let isOther :=
    if follows && !isOne old new then true
    else if isLink oldLink && isLink newLink && (!follows || o.has 'M') then follows || decide (old.1 ≠ new.1)
    else (o.has 'M' && (isLink newLink || isOne oldLink newLink && decide (oldLink.1 ≠ newLink.1)))
      || isPlain && !isOne oldLink newLink || o.has 's' && isLink newLink
      || !follows && (!fs.same source target || o.has 'l' && isLink newLink)
  if o.has 'l' && isOne old new then .settled
  else if isOther then .other
  else if o.has 'l' && (isPlain || !follows) then .settled
  else .same

/-- What is to be done about a thing that stands where another one is to be moved. -/
def moveClash (fs : Files) (source target : String) (old new : Thing) : Clash :=
  let isElsewhere := (fs.locate source).toOption.any fun place => place ≠ new.1
  if isLink new then (if old.1 = new.1 then .same else .other)
  else if isLink old then
    if 1 < fs.placesOf new.2 && (fs.locate source).toBool then (if isElsewhere then .other else .same)
    else if fs.same source target then .same
    else .other
  else if isOne old new then .same
  else .other

/-! ### Copies -/

/-- The content of a source and whether it can be run. -/
def sourceFile (path : ByteText) : Shell (Except FileFault File) := do
  let seen ← Shell.path path
  if ((← Shell.files).device? seen).isSome || (Shell.streamOfPath? path).isSome then
    return (← Shell.contentOf path).map fun content => ⟨content.toBytes, false⟩
  else return (← Shell.files).file seen

/-- Whether directories are copied with all that is in them. -/
def isDeep (o : Options) : Bool := o.has 'r' || o.has 'R' || o.has 'a'

/-- Whether links are followed, those that are operands or those that are found in directories. The last option that
says so counts. -/
def followsLinks (o : Options) (isOperand : Bool) : Bool :=
  match (o.given.reverse.map Prod.fst).find? fun letter => "LPHda".toList.contains letter with
  | some 'L' => true
  | some 'H' => isOperand
  | some _ => false
  | none => o.has 'l' || !(o.has 'r' || o.has 'R')

/-- Write a file to a path at which there may be one. One that is there already stays as it can be run, unless
`exactly` is set. -/
def putFile (name target : ByteText) (file : File) (isNew exactly : Bool) : Shell Nat := do
  let path ← Shell.path target
  if isNew && (← isLinkAt target) && !hasSlash target then
    refuse name ("not writing through dangling symlink ".toList ++ quotedPath target) 1
  else
    let change := fun (fs : Files) => do
      let fs ← fs.write path file.bytes
      if isNew || exactly then fs.setExecutable path file.executable else .ok fs
    attemptChange change fun fault =>
      let what := if fault = .noSpace then "error writing" else "cannot create regular file"
      complainOf name what target (if fault = .isADirectory then .notADirectory else fault)

/-- Put what is like a thing to a path, at which there is nothing if `isNew` is set. -/
def putLike (name : ByteText) (o : Options) (source target : ByteText) (found : Thing) (isNew : Bool) :
    Shell Nat := do
  let targetPath ← Shell.path target
  let refused (kind : String) (fault : FileFault) : Shell Unit :=
    complain name ("cannot create ".toList ++ kind.toList ++ " link ".toList ++ quotedPath target ++ " to ".toList
      ++ quotedPath source ++ ": ".toList ++ faultText fault)
  if (o.has 'l' || o.has 's') && !isNew && o.has 'f' then
    discard (attemptChange (fun fs => fs.remove targetPath) fun _ => pure ())
  if o.has 's' then
    if source.head? ≠ some '/' && target.contains '/' then
      let complaint := ": can make relative symbolic links only in current directory".toList
      refuse name (shownPath target ++ complaint) 1
    else attemptChange (fun fs => fs.link source.string targetPath) (refused "symbolic")
  else if o.has 'l' then attemptChange (fun fs => fs.putFree targetPath found.2) (refused "hard")
  else
    match found.2 with
    | .link link =>
      attemptChange (fun fs => fs.link link targetPath) fun fault =>
        complainOf name "cannot create symbolic link" target fault
    | node =>
      if node matches .device _ && isDeep o then
        attemptChange (fun fs => fs.putFree targetPath node) fun fault =>
          complainOf name "cannot create special file" target fault
      else
        match ← sourceFile source with
        | .ok file => putFile name target file isNew (o.has 'p' || o.has 'a')
        | .error fault =>
          complainOf name "cannot open" source fault
          pure 1

/-- Copy a thing that is no directory to a path at which there may be another one. -/
def copyThing (name : ByteText) (o : Options) (source target : ByteText) (found : Thing) : Shell Nat := do
  let fs ← Shell.files
  let (path, targetPath) := (← Shell.path source, ← Shell.path target)
  let byItself := isLink found || o.has 'l' || o.has 's' || o.has 'M'
  let make (isNew : Bool) : Shell Nat := do
    let code ← putLike name o source target found isNew
    tellDone o code (quotedPath source ++ " -> ".toList ++ quotedPath target)
  let makeAnew : Shell Nat := do
    discard (attemptChange (fun fs => fs.remove targetPath) fun _ => pure ())
    make true
  match fs.findWith (!byItself) targetPath with
  | .error .notFound => make true
  | .error fault =>
    if fault = .tooManyLinks && o.has 'f' then makeAnew
    else
      complainOf name "cannot stat" target fault
      pure 1
  | .ok new =>
    match copyClash fs o (followsLinks o true) path targetPath found new with
    | .same => refuseSame name source target
    | .settled => pure 0
    | .other =>
      let isShared := (o.has 'd' || o.has 'a') && decide (1 < fs.placesOf new.2)
      let isSpecial := isLink found || found.2 matches .device _ && !followsLinks o true
      if o.has 'n' then pure 0
      else if new.2 = .directory then
        refuse name ("cannot overwrite directory ".toList ++ quotedPath target ++ " with non-directory".toList) 1
      else if o.has 'M' || !o.has 'l' && !o.has 's' && (isSpecial || isShared) then makeAnew
      else make false

/-- Make sure that there is a directory for a copy to go to, and tell whether it is new. -/
def makeTarget (name : ByteText) (o : Options) (source target : ByteText) (found : Thing) :
    Shell (Except Nat Bool) := do
  let fs ← Shell.files
  let (path, targetPath) := (← Shell.path source, ← Shell.path target)
  match fs.findLink targetPath with
  | .ok new =>
    match copyClash fs o false path targetPath found new, new.2 with
    | .same, _ => .error <$> refuseSame name source target
    | _, .directory => pure (.ok false)
    | _, _ =>
      .error <$> refuse name ("cannot overwrite non-directory ".toList ++ quotedPath target
        ++ " with directory ".toList ++ quotedPath source) 1
  | .error _ =>
    let code ← attemptChange (fun fs => fs.makeDirectory targetPath) fun fault =>
      complainOf name "cannot create directory" target fault
    let code ← tellDone o code (quotedPath source ++ " -> ".toList ++ quotedPath target)
    pure (if code = 0 then .ok true else .error code)

/-- What a copy comes to: an exit code, the place of the first directory that has been made for it, and whether that
directory has been met again, which ends the copy. -/
structure Copied where
  code : Nat
  made : Option Place
  isCaught : Bool

/-- Copy a thing to a path. The number bounds how deeply directories are nested; `made` is the place of the first
directory that has been made, which is not copied itself, and `complaint` is what is said about that. -/
def copyTo (name : ByteText) (o : Options) (complaint : ByteText) :
    Nat → Bool → Option Place → ByteText → ByteText → Shell Copied
  | 0, _, made, _, _ => pure ⟨1, made, false⟩
  | depth + 1, isOperand, made, source, target => do
    let ending (act : Shell Nat) : Shell Copied := return ⟨← act, made, false⟩
    if (Shell.streamOfPath? source).isSome || (Shell.streamOfPath? target).isSome then
      return ← ending (copyStream source target)
    match (← Shell.files).findWith (followsLinks o isOperand) (← Shell.path source) with
    | .error fault =>
      complainOf name "cannot stat" source fault
      pure ⟨1, made, false⟩
    | .ok (place, .directory) =>
      if !isDeep o then ending (refuse name ("-r not specified; omitting directory ".toList ++ quotedPath source) 1)
      else if made = some place then
        complain name complaint
        pure ⟨1, made, true⟩
      else
        match ← makeTarget name o source target (place, .directory) with
        | .error code => ending (pure code)
        | .ok isNew =>
          let own := (← Shell.files).locate (← Shell.path target)
          let mut done : Copied := ⟨0, made.orElse fun _ => if isNew then own.toOption else none, false⟩
          for n in (← Shell.files).namesByAge place do
            if !done.isCaught then
              let next ← copyTo name o complaint depth false done.made (inside source (.ofString n))
                (inside target (.ofString n))
              done := { next with code := max done.code next.code }
          pure done
    | .ok found => ending (copyThing name o source target found)
where
  /-- Copy what is read from one path to another one, at least one of which stands for a stream. -/
  copyStream (source target : ByteText) : Shell Nat := do
    match ← sourceFile source with
    | .error fault =>
      complainOf name "cannot stat" source fault
      pure 1
    | .ok file =>
      if (Shell.streamOfPath? target).isSome then
        Shell.writePath target .extend (.ofBytes file.bytes) (complainOf name "cannot create regular file" target)
      else putFile name target file (!((← Shell.files).find (← Shell.path target)).toBool) false

/-- Copy files and directories. -/
def cp : Utility :=
  withOptions "rRpafivLPnTdubHlsxZ" "tS"
    [("recursive", 'r'), ("archive", 'a'), ("force", 'f'), ("verbose", 'v'), ("preserve", 'p'), ("no-clobber", 'n'),
     ("no-target-directory", 'T'), ("target-directory", 't'), ("link", 'l'), ("symbolic-link", 's'),
     ("dereference", 'L'), ("no-dereference", 'P'), ("remove-destination", 'M')] 1 fun name o =>
    withTargets .usual name o (fun _ => pure (o.has 'T')) fun source target => do
      let complaint := "cannot copy a directory, ".toList ++ quotedPath source ++ ", into itself, ".toList
        ++ quotedPath target
      return (← copyTo name o complaint deepest true none source target).code

/-! ### Moves -/

/-- Move a thing to a path. -/
def moveTo (name : ByteText) (o : Options) (source target : ByteText) : Shell Nat := do
  let fs ← Shell.files
  let (path, targetPath) := (← Shell.path source, ← Shell.path target)
  match fs.findLink path, fs.findLink targetPath with
  | .error fault, _ =>
    complainOf name "cannot stat" source fault
    pure 1
  | .ok old, .ok new =>
    if o.has 'n' then pure 0
    else
      match moveClash fs path targetPath old new, decide (old.2 = .directory), decide (new.2 = .directory) with
      | .same, _, _ =>
        if old.2 = .directory then refuseInside else refuseSame name source target
      | _, true, false =>
        refuse name ("cannot overwrite non-directory ".toList ++ quotedPath target ++ " with directory ".toList
          ++ quotedPath source) 1
      | _, false, true =>
        refuse name ("cannot overwrite directory ".toList ++ quotedPath target ++ " with non-directory".toList) 1
      | _, _, _ => change old path targetPath
  | .ok old, .error fault =>
    if fault ≠ .notFound then
      complainOf name "cannot stat" target fault
      pure 1
    else change old path targetPath
where
  /-- Complain about a directory that would come to be inside itself. -/
  refuseInside : Shell Nat :=
    refuse name ("cannot move ".toList ++ quotedPath source ++ " to a subdirectory of itself, ".toList
      ++ quotedPath target) 1
  /-- Complain about a move that does not go. -/
  refused (fault : ByteText) : Shell Unit :=
    complain name ("cannot move ".toList ++ quotedPath source ++ " to ".toList ++ quotedPath target ++ ": ".toList
      ++ fault)
  /-- Move, or complain. -/
  change (old : Thing) (path targetPath : String) : Shell Nat := do
    let fs ← Shell.files
    let isInside := match fs.locateWith false (Files.withoutSlashes targetPath) with
      | .ok place => decide (old.2 = Node.directory) && old.1.isPrefixOf place
      | .error _ => false
    if lastNameOf source = ['.'] || lastNameOf source = ['.', '.'] then
      refused "Device or resource busy".toList
      pure 1
    else if isInside then refuseInside
    else if hasSlash source && (← isLinkAt source) || hasSlash target && old.2 ≠ .directory then
      refused (faultText .notADirectory)
      pure 1
    else
      let code ← attemptChange (fun fs => fs.move path targetPath) fun fault =>
        if fault = .notEmpty then complainOf name "cannot overwrite" target fault else refused (faultText fault)
      tellDone o code ("renamed ".toList ++ quotedPath source ++ " -> ".toList ++ quotedPath target)

/-- Move files and directories. -/
def mv : Utility :=
  withOptions "fivnTu" "t"
    [("force", 'f'), ("verbose", 'v'), ("no-clobber", 'n'), ("no-target-directory", 'T'), ("target-directory", 't')] 1
    fun name o => withTargets .usual name o (fun _ => pure (o.has 'T')) (moveTo name o)

/-! ### Links -/

/-- The way from one place to another one. -/
def wayTo (source target : Place) : String :=
  let shared := ((source.zip target).takeWhile fun e => e.1 = e.2).length
  let names := List.replicate (source.length - shared) ".." ++ target.drop shared
  if names.isEmpty then "." else "/".intercalate names

/-- What a link at a path says, if it is to lead to another path from where it is. -/
def wayFrom (target source : ByteText) : Shell String := do
  let fs ← Shell.files
  match fs.locate (← Shell.path (directoryOf target)), fs.locate (← Shell.path source) with
  | .ok directory, .ok place => pure (wayTo directory place)
  | _, _ => pure source.string

/-- Whether what stands at the path of a link is the source of the link, so that it cannot give way. -/
def isOwnSource (fs : Files) (o : Options) (source target : String) (new : Thing) : Bool :=
  match fs.findWith (o.has 's' || o.has 'L') source with
  | .error _ => false
  | .ok old =>
    let isInPlace := (fs.findLink source).toOption.any fun found => found.1 = new.1
    isOne old new && (decide (fs.placesOf new.2 ≤ 1) || isInPlace) && (fs.findLink target).toBool

/-- Make a link, or for a link that is not symbolic another place of the same file. -/
def linkTo (name : ByteText) (o : Options) (source target : ByteText) : Shell Nat := do
  let fs ← Shell.files
  let (path, targetPath) := (← Shell.path source, ← Shell.path target)
  match o.has 's', fs.findWith (o.has 'L') path with
  | false, .error fault =>
    complainOf name "failed to access" source fault
    pure 1
  | false, .ok (_, .directory) => refuse name (source ++ ": hard link not allowed for directory".toList) 1
  | symbolic, found =>
    if let some new := (fs.findLink targetPath).toOption.filter fun _ => o.has 'f' then
      if new.2 = .directory then return ← refuse name (shownPath target ++ ": cannot overwrite directory".toList) 1
      if isOwnSource fs o path targetPath new then return ← refuseSame name source target
      discard (attemptChange (fun fs => fs.remove targetPath) fun _ => pure ())
    if symbolic then
      let shown ← if o.has 'r' then wayFrom target source else pure source.string
      let between := if source.isEmpty then " -> ".toList ++ quotedPath source else []
      let code ← attemptChange (fun fs => fs.link shown targetPath) fun fault =>
        complain name ("failed to create symbolic link ".toList ++ quotedPath target ++ between ++ ": ".toList
          ++ faultText fault)
      tellDone o code (quotedPath target ++ " -> ".toList ++ quotedPath (.ofString shown))
    else
      let node := (found.toOption.map Prod.snd).getD Node.directory
      let code ← attemptChange (fun fs => fs.putFree targetPath node) fun fault =>
        let between := if fault = .taken then [] else " => ".toList ++ quotedPath source
        complain name ("failed to create hard link ".toList ++ quotedPath target ++ between ++ ": ".toList
          ++ faultText fault)
      tellDone o code (quotedPath target ++ " => ".toList ++ quotedPath source)

/-- Make links. -/
def ln : Utility :=
  let words : TargetWords :=
    { given := fun target fault =>
        if fault = .notADirectory then "target ".toList ++ quotedPath target ++ " is not a directory".toList
        else "failed to access ".toList ++ quotedPath target ++ ": ".toList ++ faultText fault
      last := TargetWords.usual.last }
  withOptions "sfnvTiPLr" "t"
    [("symbolic", 's'), ("force", 'f'), ("no-dereference", 'n'), ("verbose", 'v'), ("relative", 'r'),
     ("target-directory", 't'), ("no-target-directory", 'T')] 1 fun name o =>
    match o.value? 't', o.operands with
    | none, [source] => linkTo name o source ("./".toList ++ lastNameOf source)
    | _, _ =>
      let plain (target : ByteText) : Shell Bool := do
        return o.has 'T' || o.has 'n' && (← isLinkAt target) && !hasSlash target
      withTargets words name o plain (linkTo name o)

/-- Give a file another place. -/
def link : Utility :=
  withOptions "" "" [] 1 fun name o => do
    match o.operands with
    | [] => misuse name "missing operand".toList 1
    | [source] => misuse name ("missing operand after ".toList ++ quoted source) 1
    | [source, target] =>
      let refused (fault : ByteText) : Shell Unit :=
        complain name ("cannot create link ".toList ++ quotedPath target ++ " to ".toList ++ quotedPath source
          ++ ": ".toList ++ fault)
      match (← Shell.files).findLink (← Shell.path source) with
      | .error fault =>
        refused (faultText fault)
        pure 1
      | .ok (_, .directory) =>
        refused "Operation not permitted".toList
        pure 1
      | .ok (_, node) =>
        let path ← Shell.path target
        attemptChange (fun fs => fs.putFree path node) fun fault => refused (faultText fault)
    | _ :: _ :: extra :: _ => misuse name ("extra operand ".toList ++ quoted extra) 1

end Utility

end Script

end LinearProgram
