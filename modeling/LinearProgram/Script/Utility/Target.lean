import LinearProgram.Script.Utility.Basic

/-!
What utilities that work on files as a whole have in common.

* `attemptChange`, `tellDone`, `complainOf`: changes of the files, and what is said about them.
* `Thing`, `isOne`: what stands at a place.
* `withTargets`: sources, each with a target of its own.
-/

namespace LinearProgram

namespace Script

namespace Utility

/-! ### Paths -/

/-- A path inside a directory. -/
def inside (directory name : ByteText) : ByteText :=
  if directory.getLast? = some '/' then directory ++ name else directory ++ '/' :: name

/-- Change the files, or complain. -/
def attemptChange (change : Files → Except FileFault Files) (refused : FileFault → Shell Unit) : Shell Nat := do
  match change (← Shell.files) with
  | .ok files =>
    Shell.setFiles files
    pure 0
  | .error fault =>
    refused fault
    pure 1

/-- Tell what has been done, if all went well and an option says so. -/
def tellDone (o : Options) (code : Nat) (text : ByteText) : Shell Nat := do
  if code = 0 && o.has 'v' then Shell.sayLine text
  pure code

/-- Complain about an operand of which something is said. -/
def complainOf (name : ByteText) (what : String) (path : ByteText) (fault : FileFault) : Shell Unit :=
  complain name (what.toList ++ [' '] ++ quotedPath path ++ ": ".toList ++ faultText fault)

/-- Why a path is not that of a directory. -/
def notDirectory? (path : ByteText) : Shell (Option FileFault) := do
  return match (← Shell.files).find (← Shell.path path) with
    | .ok (_, .directory) => none
    | .ok _ => some .notADirectory
    | .error fault => some fault

/-- Whether there is a directory at a path. -/
def isDirectory (path : ByteText) : Shell Bool := return (← notDirectory? path).isNone

/-- Whether a path has a slash at its end. -/
def hasSlash (path : ByteText) : Bool := path.getLast? = some '/'

/-! ### What is found -/

/-- A thing that stands at a place. -/
abbrev Thing := Place × Node

/-- Whether two things are one: a file can stand at several places. -/
def isOne : Thing → Thing → Bool
  | (_, .file m), (_, .file n) => m = n
  | (p, _), (q, _) => p = q

/-- Whether a thing is a link. -/
def isLink (found : Thing) : Bool := found.2 matches .link _

/-- Whether there is a link at a path, whatever slashes stand at its end. -/
def isLinkAt (path : ByteText) : Shell Bool := do
  let seen ← Shell.path (withoutSlashes path)
  return ((← Shell.files).findLink seen).toOption.any isLink

/-- How deeply directories are nested at most. -/
def deepest : Nat := 1000

/-! ### Sources and targets -/

/-- How a command complains about a target that is not the directory it has to be: one that an option gives, and one
that is the last operand. -/
structure TargetWords where
  given : ByteText → FileFault → ByteText
  last : ByteText → FileFault → ByteText

/-- How most commands complain. -/
def TargetWords.usual : TargetWords where
  given target fault := "target directory ".toList ++ quotedPath target ++ ": ".toList ++ faultText fault
  last target fault := "target ".toList ++ quotedPath target ++ ": ".toList ++ faultText fault

/-- Do something with each source and its own target. The target of a source is a path in a directory if the target is
one, unless `plain` is set for it, or if there are several sources or an option gives the target. -/
def withTargets (words : TargetWords) (name : ByteText) (o : Options) (plain : ByteText → Shell Bool)
    (act : ByteText → ByteText → Shell Nat) : Shell Nat := do
  let missing : Shell Nat := misuse name "missing file operand".toList 1
  match o.value? 't', o.operands.reverse with
  | some _, [] => missing
  | some target, _ => into target words.given o.operands
  | none, [] => missing
  | none, [source] => misuse name ("missing destination file operand after ".toList ++ quotedPath source) 1
  | none, [target, source] =>
    if (← isDirectory target) && !(← plain target) then act source (inside target (lastNameOf source))
    else act source target
  | none, target :: sources => into target words.last sources.reverse
where
  /-- Do it for sources whose targets are in a directory. -/
  into (target : ByteText) (told : ByteText → FileFault → ByteText) (sources : List ByteText) : Shell Nat := do
    match ← notDirectory? target with
    | none => forEach sources fun source => act source (inside target (lastNameOf source))
    | some fault => refuse name (told target fault) 1

end Utility

end Script

end LinearProgram
