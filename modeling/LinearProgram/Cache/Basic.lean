import LinearProgram.Digest
import LinearProgram.Format
import LinearProgram.Journal
import LinearProgram.Status

/-!
Known solutions by the digest of their problem file.

Problem files with the same content share one entry, whatever their names. A cache that is full when a new
problem comes drops every entry before it takes the new one.

* `KnownSolution`: a solution file with the status and kind of the solution.
* `Cache`: known solutions up to a capacity.
* `Cache.insert`: the cache with a solution registered, and `Cache.displaced`, the solutions that give way.
-/

namespace LinearProgram

/-- A solution file, owned by the cache, with what the solver said about it. -/
structure KnownSolution where
  file : String
  status : Status
  kind : SolutionKind
  deriving DecidableEq

/-- Known solutions by digest. -/
structure Cache where
  capacity : Nat
  entries : List (Digest × KnownSolution)
  deriving DecidableEq

namespace Cache

/-- The capacity of a cache for which none is given. -/
def defaultCapacity : Nat := 100

/-- A cache without entries. -/
def new (capacity : Nat) : Cache := ⟨capacity, []⟩

/-- The number of entries. -/
def size (c : Cache) : Nat := c.entries.length

/-- Whether there are no entries. -/
def isEmpty (c : Cache) : Bool := c.entries.isEmpty

/-- The known solution of a problem. -/
def get? (c : Cache) (d : Digest) : Option KnownSolution := c.entries.lookup d

/-- Whether a solution of a problem is known. -/
def contains (c : Cache) (d : Digest) : Bool := (c.get? d).isSome

/-- The cache without its entries. -/
def clear (c : Cache) : Cache := { c with entries := [] }

/-- The solutions of all entries. -/
def solutions (c : Cache) : List KnownSolution := c.entries.map Prod.snd

/-- Whether a problem is new to a cache that has no place left for it. -/
def overflows (c : Cache) (d : Digest) : Bool := !c.contains d && decide (c.capacity ≤ c.size)

/-- The cache with a solution registered for a problem. -/
def insert (c : Cache) (d : Digest) (known : KnownSolution) : Cache :=
  { c with
    entries := (d, known) :: (if c.overflows d then [] else c.entries.filter fun e => e.1 ≠ d) }

/-- The solutions that give way when a problem is registered: all of them if the problem overflows the
cache, and otherwise the one that the same problem has. -/
def displaced (c : Cache) (d : Digest) : List KnownSolution :=
  if c.overflows d then c.solutions else (c.get? d).toList

end Cache

end LinearProgram
