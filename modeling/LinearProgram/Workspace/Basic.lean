import LinearProgram.Solver.Basic

/-!
A workspace: named solvers and named caches that share one host.

A solver or a cache that is put under a name takes the place of the one before, which is given up together with
the files it owns. A mark is a path that the workspace remembers; it does not keep the file alive.

* `Named`: values under names, one for each name.
* `Workspace`: the host, the caches, the solvers and the marks.
* `WorkspaceM.onSolver`, `WorkspaceM.onCache`, `WorkspaceM.onBench`: computations on what stands under a name.
* `Workspace.putCache`, `Workspace.putSolver`: a new cache or solver under a name.
-/

namespace LinearProgram

/-! ### Values under names -/

/-- Values under names. -/
abbrev Named (α : Type) := List (String × α)

namespace Named

variable {α : Type}

/-- The value under a name. -/
def get? (table : Named α) (name : String) : Option α := table.lookup name

/-- The table with a value put under a name. -/
def put (table : Named α) (name : String) (value : α) : Named α :=
  (name, value) :: table.filter fun e => e.1 ≠ name

end Named

/-! ### Workspaces -/

/-- Named solvers and named caches that share one host, and remembered paths. -/
structure Workspace where
  host : Host
  caches : Named Cache
  solvers : Named Solver
  marks : Named String

/-- A computation on a workspace that may fail. -/
abbrev WorkspaceM := ExceptT Error (StateM Workspace)

namespace WorkspaceM

variable {α : Type}

/-- A computation on the host alone. -/
def onHost (act : HostM α) : WorkspaceM α := fun w =>
  let (result, host) := act w.host
  (result, { w with host })

/-- A computation on the host alone that cannot fail. -/
def onHostSafely (act : StateM Host α) : WorkspaceM α := fun w =>
  let (a, host) := act w.host
  (.ok a, { w with host })

/-- The solver of a name. -/
def solverNamed (name : String) : WorkspaceM Solver := do
  match (← get).solvers.get? name with
  | some s => pure s
  | none => throw (.notFound "solver" name)

/-- The cache of a name. -/
def cacheNamed (name : String) : WorkspaceM Cache := do
  match (← get).caches.get? name with
  | some c => pure c
  | none => throw (.notFound "cache" name)

/-- A computation on the solver of a name. -/
def onSolver (name : String) (act : BackendM Solver α) : WorkspaceM α := do
  let s ← solverNamed name
  fun w =>
    let (result, (s, host)) := act (s, w.host)
    (result, { w with host, solvers := w.solvers.put name s })

/-- A computation on the cache of a name. -/
def onCache (name : String) (act : CacheM α) : WorkspaceM α := do
  let c ← cacheNamed name
  fun w =>
    let (result, (c, host)) := act (c, w.host)
    (result, { w with host, caches := w.caches.put name c })

/-- A computation on a solver and a cache, each given by its name. -/
def onBench (solver cache : String) (act : BenchM Solver α) : WorkspaceM α := do
  let backend ← solverNamed solver
  let c ← cacheNamed cache
  fun w =>
    let (result, bench) := act ⟨backend, c, w.host⟩
    (result,
      { w with
        host := bench.host
        solvers := w.solvers.put solver bench.backend
        caches := w.caches.put cache bench.cache })

end WorkspaceM

namespace Workspace

/-- A workspace with nothing in it but a host. -/
def new (host : Host) : Workspace := ⟨host, [], [], []⟩

/-- Put a new cache under a name. The files of the one before are removed. -/
def putCache (name : String) (capacity : Nat) : WorkspaceM Unit := do
  let old := (← get).caches.get? name
  modify fun w => { w with caches := w.caches.put name (.new capacity) }
  WorkspaceM.onHostSafely ((old.map Cache.dispose).getD (pure ()))

/-- Put a solver under a name. The file of the one before is removed. -/
def putSolver (name : String) (solver : Solver) : WorkspaceM Unit := do
  let old := (← get).solvers.get? name
  modify fun w => { w with solvers := w.solvers.put name solver }
  WorkspaceM.onHostSafely ((old.map Backend.dispose).getD (pure ()))

/-- Remember a path under a mark. -/
def mark (name path : String) : WorkspaceM Unit :=
  modify fun w => { w with marks := w.marks.put name path }

/-- Whether the path of a mark still leads to something. A link to nothing does not. -/
def marked (name : String) : WorkspaceM Bool := do
  let w ← get
  match w.marks.get? name with
  | some path => pure (w.host.files.find path).toBool
  | none => throw (.notFound "mark" name)

end Workspace

end LinearProgram
