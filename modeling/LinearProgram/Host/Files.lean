import LinearProgram.Error
import LinearProgram.Text.Blank

/-!
A store of files, directories, links and devices.

A path is a text of names between slashes. It is walked from the root, name by name, through directories that
exist, and where a link is met the walk goes on along the link; the last name need not exist, so that files can
be made. A file has a number that it keeps for good, so one file can stand at several places, and what has it open
still has it when it stands at none.

* `Files`: what stands at each place, a place being the list of names that leads to it, and the files by number.
* `Files.stored`, `Files.change`, `Files.add`: the files themselves.
* `Files.walk`, `Files.locate`: the place of a path.
* `Files.read`, `Files.write`, `Files.remove`, `Files.copy`: the operations on files.
* `Files.makeDirectory`, `Files.makeDirectories`, `Files.removeDirectory`: directories come and go.
* `Files.link`, `Files.putFree`, `Files.move`: links, files at other places, and things that get another place.
-/

namespace LinearProgram

/-- The names that lead from the root to a file or directory. -/
abbrev Place := List String

/-- A file. -/
structure File where
  bytes : List UInt8
  executable : Bool
  deriving DecidableEq

/-- A device that takes or gives text without end. -/
inductive Device where
  /-- What is written is lost, and there is nothing to read. -/
  | null
  /-- What is written is lost, and there are zeros to read. -/
  | zero
  /-- Nothing can be written, and there are zeros to read. -/
  | full
  deriving DecidableEq

/-- What can stand at a place. -/
inductive Node where
  /-- The file with a number. -/
  | file (number : Nat)
  | directory
  /-- Another name for what is at a path. -/
  | link (target : String)
  | device (d : Device)
  deriving DecidableEq

/-- A store of files, directories, links and devices. -/
structure Files where
  entries : List (Place × Node)
  /-- The files by their numbers, also those that stand at no place any more. -/
  numbered : Array File
  deriving DecidableEq

namespace Files

/-- A store with nothing in it but the root. -/
def empty : Files := ⟨[], #[]⟩

/-- The file with a number. -/
def stored (fs : Files) (number : Nat) : File := fs.numbered[number]?.getD ⟨[], false⟩

/-- The store with another content and executability of the file with a number. -/
def change (fs : Files) (number : Nat) (f : File) : Files :=
  { fs with numbered := fs.numbered.setIfInBounds number f }

/-- The store with another content of the file with a number. -/
def fill (fs : Files) (number : Nat) (bytes : List UInt8) : Files :=
  fs.change number { fs.stored number with bytes }

/-- What stands at a place. The root is always a directory. -/
def node? (fs : Files) (place : Place) : Option Node :=
  if place = [] then some .directory else fs.entries.lookup place

/-- How many places there are at which a node stands. -/
def placesOf (fs : Files) (node : Node) : Nat := fs.entries.countP fun e => e.2 = node

/-- The store without what stands at a place. -/
def erase (fs : Files) (place : Place) : Files := { fs with entries := fs.entries.filter fun e => e.1 ≠ place }

/-- The store with a node put at a place. -/
def put (fs : Files) (place : Place) (node : Node) : Files :=
  { fs with entries := (place, node) :: (fs.erase place).entries }

/-- The store with a new file at a place. Its number is one that no file has had. -/
def add (fs : Files) (place : Place) (f : File) : Files :=
  { fs.put place (.file fs.numbered.size) with numbered := fs.numbered.push f }

/-- The names of what is in a directory, what has been put there first coming first. -/
def namesByAge (fs : Files) (place : Place) : List String :=
  let inside := fs.entries.filter fun e => !e.1.isEmpty && decide (e.1.dropLast = place)
  (inside.map fun e => e.1.getLast?.getD "").reverse

/-- The names of what is in a directory, in the order of their bytes. -/
def namesIn (fs : Files) (place : Place) : List String :=
  (fs.namesByAge place).mergeSort fun a b => decide (a ≤ b)

/-! ### Paths -/

/-- The longest name, in bytes. -/
def longestName : Nat := 255

/-- The longest path, in bytes. -/
def longestPath : Nat := 4095

/-- The number of links that a path may lead through. -/
def maxLinks : Nat := 40

/-- The names of a path, in order. -/
def namesOf (path : String) : List String := (pieces (· = '/') path.toList).map String.ofList

/-- Whether a path begins at the root. -/
def isAbsolute (path : String) : Bool := path.toList.head? = some '/'

/-- Follow names from a place. Every name but the last leads through a directory. Where a name is that of a link,
`follow` goes on from the place and the names it is given; a link at the very end is followed only if `through`
is set. -/
def walkWith (fs : Files) (through : Bool) (follow : Place → List String → Except FileFault Place) :
    Place → List String → Except FileFault Place
  | place, [] => .ok place
  | place, name :: names =>
    match fs.node? place with
    | none => .error .notFound
    | some (.file _) => .error .notADirectory
    | some (.link _) => .error .notADirectory
    | some (.device _) => .error .notADirectory
    | some .directory =>
      if name = "" ∨ name = "." then walkWith fs through follow place names
      else if name = ".." then walkWith fs through follow place.dropLast names
      else if longestName < name.utf8ByteSize then .error .invalidFilename
      else
        match fs.node? (place ++ [name]) with
        | some (.link target) =>
          if names.isEmpty && !through then .ok (place ++ [name])
          else follow (if isAbsolute target then [] else place) (namesOf target ++ names)
        | _ => walkWith fs through follow (place ++ [name]) names

/-- Follow names from a place, through no more than the given number of links. -/
def walk (fs : Files) (through : Bool) : Nat → Place → List String → Except FileFault Place
  | 0 => fs.walkWith through fun _ _ => .error .tooManyLinks
  | links + 1 => fs.walkWith through (fs.walk through links)

/-- The place of a path; a link at its end is followed only if `through` is set. -/
def locateWith (fs : Files) (through : Bool) (path : String) : Except FileFault Place :=
  if path.toList.contains '\x00' then .error .nulInName
  else if longestPath < path.utf8ByteSize then .error .invalidFilename
  else if path = "" then .error .notFound
  else fs.walk through maxLinks [] (namesOf path)

/-- The place of a path. -/
def locate (fs : Files) (path : String) : Except FileFault Place := fs.locateWith true path

/-- A path without the slashes at its end. -/
def withoutSlashes (path : String) : String :=
  String.ofList (path.toList.reverse.dropWhile fun c => c = '/').reverse

/-- The place of a file that is to be written. A path with a slash at its end can only be that of a
directory. -/
def locateWritten (fs : Files) (path : String) : Except FileFault Place := do
  let plain := withoutSlashes path
  let place ← fs.locate (if path.toList.getLast? = some '/' && plain ≠ "" then plain else path)
  if path.toList.getLast? = some '/' then .error .isADirectory else .ok place

/-- What stands at the place of a path; a link at its end is followed only if `through` is set. -/
def findWith (fs : Files) (through : Bool) (path : String) : Except FileFault (Place × Node) := do
  let place ← fs.locateWith through path
  match fs.node? place with
  | some node => .ok (place, node)
  | none => .error .notFound

/-- What stands at the place of a path. -/
def find (fs : Files) (path : String) : Except FileFault (Place × Node) := fs.findWith true path

/-- What stands at a path, which may be a link. -/
def findLink (fs : Files) (path : String) : Except FileFault (Place × Node) := fs.findWith false path

/-- Whether there is anything at a path. -/
def holds (fs : Files) (path : String) : Bool := (fs.findLink path).toBool

/-! ### Operations on files -/

/-- The number of the file at a path. -/
def number (fs : Files) (path : String) : Except FileFault Nat := do
  match (← fs.find path).2 with
  | .file n => .ok n
  | .directory => .error .isADirectory
  | .link _ => .error .tooManyLinks
  | .device _ => .error .notRegular

/-- The file at a path. -/
def file (fs : Files) (path : String) : Except FileFault File := (fs.number path).map fs.stored

/-- The device at a path. -/
def device? (fs : Files) (path : String) : Option Device :=
  match fs.find path with
  | .ok (_, .device d) => some d
  | _ => none

/-- The content of the file at a path. A device has none. -/
def read (fs : Files) (path : String) : Except FileFault (List UInt8) :=
  if (fs.device? path).isSome then .ok [] else (fs.file path).map File.bytes

/-- The number of the file at a place, and the store with an empty file there if there is none. -/
def openAt (fs : Files) (place : Place) : Except FileFault (Nat × Files) :=
  match fs.node? place with
  | some (.file n) => .ok (n, fs)
  | some .directory => .error .isADirectory
  | some (.device _) => .error .notRegular
  | _ => .ok (fs.numbered.size, fs.add place ⟨[], false⟩)

/-- The number of the file at a path that is to be written, and the store with an empty file there if there is
none. -/
def openWritten (fs : Files) (path : String) : Except FileFault (Nat × Files) := do
  fs.openAt (← fs.locateWritten path)

/-- The store after bytes have been written to a device. -/
def writeDevice (fs : Files) (d : Device) (bytes : List UInt8) : Except FileFault Files :=
  if d = .full && !bytes.isEmpty then .error .noSpace else .ok fs

/-- Give the file at a path a content, making it if there is none. A file that exists stays executable if it
is. -/
def write (fs : Files) (path : String) (bytes : List UInt8) : Except FileFault Files := do
  match fs.device? path with
  | some d => fs.writeDevice d bytes
  | none =>
    let (n, fs) ← fs.openWritten path
    .ok (fs.fill n bytes)

/-- Put bytes behind the content of the file at a path. -/
def append (fs : Files) (path : String) (bytes : List UInt8) : Except FileFault Files := do
  match fs.device? path with
  | some d => fs.writeDevice d bytes
  | none =>
    let n ← fs.number path
    .ok (fs.fill n ((fs.stored n).bytes ++ bytes))

/-- Put a new file with a content at a path, which can be run if the one that has stood there can. A link makes way
like a file. -/
def replace (fs : Files) (path : String) (bytes : List UInt8) : Except FileFault Files := do
  let old ← fs.file path
  .ok (fs.add (← fs.locateWith false path) ⟨bytes, old.executable⟩)

/-- Make the file at a path executable, or not. -/
def setExecutable (fs : Files) (path : String) (executable : Bool) : Except FileFault Files := do
  match (← fs.find path).2 with
  | .file n => .ok (fs.change n { fs.stored n with executable })
  | _ => .ok fs

/-- Remove the file or link at a path. -/
def remove (fs : Files) (path : String) : Except FileFault Files := do
  match ← fs.findLink path with
  | (_, .directory) => .error .isADirectory
  | (place, _) => .ok (fs.erase place)

/-- Whether two paths lead to one and the same place. -/
def samePlace (fs : Files) (path other : String) : Bool :=
  match fs.find path, fs.find other with
  | .ok (p, _), .ok (q, _) => p = q
  | _, _ => false

/-- Whether two paths lead to one and the same thing, which may be a file at two places. -/
def same (fs : Files) (path other : String) : Bool :=
  match fs.find path, fs.find other with
  | .ok (_, .file m), .ok (_, .file n) => m = n
  | .ok (p, _), .ok (q, _) => p = q
  | _, _ => false

/-- Copy a file with its content and its executability. A file copied onto its own place stays as it is; otherwise
the target is emptied before the source is read. -/
def copy (fs : Files) (source target : String) : Except FileFault Files :=
  if fs.samePlace source target then .ok fs
  else do
    match (← fs.find source).2, fs.device? target with
    | .file n, some d => fs.writeDevice d (fs.stored n).bytes
    | .file n, none =>
      let (m, fs) ← fs.openWritten target
      let emptied := fs.fill m []
      .ok (emptied.change m (emptied.stored n))
    | _, _ => .error .notRegular

/-! ### Directories and links -/

/-- The place of a path at which there is nothing yet; slashes at its end do not count. -/
def locateNew (fs : Files) (path : String) : Except FileFault Place := do
  let plain := withoutSlashes path
  let place ← fs.locateWith false (if plain = "" then path else plain)
  if (fs.node? place).isSome then .error .taken else .ok place

/-- Put a node to a path at which there is nothing yet. A path with a slash at its end can only become that of a
directory. -/
def putFree (fs : Files) (path : String) (node : Node) : Except FileFault Files := do
  let place ← fs.locateNew path
  if path.toList.getLast? = some '/' && node ≠ .directory then .error .notFound else .ok (fs.put place node)

/-- Make a directory. -/
def makeDirectory (fs : Files) (path : String) : Except FileFault Files := fs.putFree path .directory

/-- Whether there is a directory at a path. -/
def isDirectory (fs : Files) (path : String) : Bool :=
  match fs.find path with
  | .ok (_, .directory) => true
  | _ => false

/-- The path that leads through names from the root. -/
def pathThrough (names : List String) : String := "/" ++ "/".intercalate names

/-- A path from the root without names that lead nowhere or back. -/
def plainPath (path : String) : String :=
  pathThrough ((namesOf path).foldl (fun names name =>
    if name = "" || name = "." then names else if name = ".." then names.dropLast else names ++ [name]) [])

/-- Make a directory unless it is there. -/
def makeMissing (fs : Files) (path : String) : Except FileFault Unit × Files :=
  match fs.makeDirectory path with
  | .ok fs => (.ok (), fs)
  | .error fault => (if fs.isDirectory path then .ok () else .error fault, fs)

/-- Make the directory that names, the last one first, lead to from the root, and those above it that are not there.
Directories that have been made stay, even if another one cannot be made. -/
def makeDirectoriesUpTo (fs : Files) : List String → Except FileFault Unit × Files
  | [] => (.ok (), fs)
  | name :: above =>
    let path := pathThrough (name :: above).reverse
    match fs.makeDirectory path with
    | .ok fs => (.ok (), fs)
    | .error .notFound =>
      match fs.makeDirectoriesUpTo above with
      | (.error fault, fs) => (.error fault, fs)
      | (.ok (), fs) => fs.makeMissing path
    | .error _ => fs.makeMissing path

/-- The names of a path that lead away from where they are met, the last one first. -/
def stepsBack (path : String) : List String := ((namesOf path).filter fun n => n ≠ "" && n ≠ ".").reverse

/-- Make a directory and those above it. -/
def makeDirectories (fs : Files) (path : String) : Except FileFault Unit × Files :=
  fs.makeDirectoriesUpTo (stepsBack path)

/-- Make the directories above a path. -/
def makeDirectoriesAbove (fs : Files) (path : String) : Except FileFault Unit × Files :=
  fs.makeDirectoriesUpTo ((stepsBack path).drop 1)

/-- Remove a directory with nothing in it. A link to one is none. -/
def removeDirectory (fs : Files) (path : String) : Except FileFault Files := do
  let plain := withoutSlashes path
  match ← fs.findLink (if plain = "" then path else plain) with
  | (place, .directory) => if (fs.namesIn place).isEmpty then .ok (fs.erase place) else .error .notEmpty
  | _ => .error .notADirectory

/-- Make a link. -/
def link (fs : Files) (target path : String) : Except FileFault Files :=
  if target = "" then .error .notFound else fs.putFree path (.link target)

/-- The store without a place and all that is inside it. -/
def eraseAll (fs : Files) (place : Place) : Files :=
  { fs with entries := fs.entries.filter fun e => !place.isPrefixOf e.1 }

/-- The store with what is at a place, and all inside it, moved to another place. -/
def moveTo (fs : Files) (source target : Place) : Files :=
  let moved := fs.entries.filter fun e => source.isPrefixOf e.1
  { fs with
    entries := moved.map (fun e => (target ++ e.1.drop source.length, e.2))
      ++ ((fs.eraseAll source).eraseAll target).entries }

/-- Give what is at a path another place. A file that is there already makes way, and so does a directory with
nothing in it for a directory. A file that stands at the other place already stays at both. -/
def move (fs : Files) (source target : String) : Except FileFault Files := do
  let (old, node) ← fs.findLink source
  let new ← fs.locateWith false
    (if node = .directory && withoutSlashes target ≠ "" then withoutSlashes target else target)
  let isFile := match node with
    | .file _ => true
    | _ => false
  if old = new || isFile && fs.node? new = some node then .ok fs
  else
    match fs.node? new, decide (node = .directory) with
    | some .directory, false => .error .isADirectory
    | some .directory, true => if (fs.namesIn new).isEmpty then .ok (fs.moveTo old new) else .error .notEmpty
    | some _, true => .error .notADirectory
    | _, _ => .ok (fs.moveTo old new)

end Files

end LinearProgram
