import LinearProgram.Cache.Basic
import LinearProgram.Host.Basic

/-!
A cache that owns files on a host.

The file of a known solution lives as long as its entry. It is removed when the entry gives way, when the cache
is cleared, and when the cache itself is given up.

* `digestOfFile`: the digest of a problem file.
* `Cache.register`: a solution file becomes the known solution of a problem file.
* `Cache.dispose`, `Cache.clearOnHost`: the end of all entries.
-/

namespace LinearProgram

/-- The digest of the content of a file. -/
def digestOfFile (path : String) : HostM Digest := Digest.ofBytes <$> Host.read path

/-- A computation on a cache and a host that may fail. -/
abbrev CacheM := ExceptT Error (StateM (Cache × Host))

namespace Cache

/-- A computation that leaves the cache alone. -/
def onHost {α : Type} (act : HostM α) : CacheM α := fun (c, h) =>
  let (result, h') := act h
  (result, (c, h'))

/-- Remove the files of some solutions. -/
def discardAll (solutions : List KnownSolution) : StateM Host Unit :=
  solutions.forM fun known => Host.discard known.file

/-- What the journal says about registering a solution. -/
def registrationEntries (c : Cache) (d : Digest) (problemFile : String) (known : KnownSolution) :
    List Entry :=
  (if c.overflows d then
    [.debug s!"solution cache: capacity {c.capacity} reached, dropping all entries"]
  else [])
    ++ [.debug <| s!"solution cache: registering {known.status.name} solution of '{problemFile}' "
      ++ s!"({d.hex}) as {known.file}"]

/-- Register a solution under a digest that is known already. -/
def registerAs (d : Digest) (problemFile : String) (known : KnownSolution) : CacheM Unit :=
  fun (c, h) =>
    let h := (Host.note (c.registrationEntries d problemFile known) h).2
    let h := (discardAll (c.displaced d) h).2
    (.ok (), (c.insert d known, h))

/-- Register a solution of a problem file. The cache takes over the solution file, and also removes it if the
problem file cannot be read. -/
def register (problemFile : String) (known : KnownSolution) : CacheM Unit := do
  let d ← onHost (Host.discardOnError known.file (digestOfFile problemFile))
  registerAs d problemFile known

/-- Remove the files of all entries. -/
def dispose (c : Cache) : StateM Host Unit := discardAll c.solutions

/-- Clear a cache: its entries are dropped and their files removed. -/
def clearOnHost : CacheM Unit := fun (c, h) => (.ok (), (c.clear, (c.dispose h).2))

end Cache

end LinearProgram
