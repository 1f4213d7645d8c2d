import LinearProgram.Proofs.Cache.History
import LinearProgram.Solver.Rehearsed

/-!
What a run with a cache does, whatever the backend does.

Nothing is known of the backend here: each of its operations may succeed or fail at any call, and change itself and
the host as it likes. A run takes over the problem file, loads the known solution if there is one, and otherwise solves
the problem, saves the solution and registers it. The stages have names of their own, so that the outcome of a run can
be told from the outcomes of its stages.

* `Backend.taken`, `Backend.recalled`, `Backend.settled`, `Backend.solved`, `Backend.saved`: the stages of a run.
* `Backend.Ready`, `Backend.Hits`: the problem file has been hashed and taken over; its known solution can be used.
* `Backend.Steady`: the problem file reads the same whenever a run hashes it.
* `Backend.runCached_of_hit`, `Backend.runCached_of_miss`, `Backend.loadProblem_of_not_ready`: a run by its stages.
* `Backend.Sparing.untouched`: a run that fails leaves alone what the backend leaves alone.
* `Counted`: a backend that counts how often it solves; `Backend.Tallies`: counting changes nothing.
* `Backend.runCached_contract`: **a hit solves nothing, a miss solves once, and a failure leaves the cache alone.**
-/

namespace LinearProgram

namespace Backend

variable {β : Type} [Backend β]

/-! ### The stages of a run -/

section Stages

variable (path : String) (format : ProblemFormat)

/-- The problem file is taken over. -/
def taken (s : Bench β) : Except Error Unit × Bench β := BenchM.onBackend (doLoadProblem path format) s

/-- A known solution is loaded. -/
def recalled (known : KnownSolution) (s : Bench β) : Except Error Unit × Bench β :=
  BenchM.onBackend (loadSolution known.file known.kind) s

/-- What the journal says about a known solution that cannot be loaded. -/
def refusal (b : β) (e : Error) : Entry := .warn s!"{name b}: error loading known solution: {e.message}"

/-- What the journal says about a known solution that is used. -/
def reuseNotice (b : β) (path : String) (status : Status) : Entry :=
  .info s!"{name b}: reusing known solution for '{path}': {status.name}"

/-- The bench after a word in the journal. -/
def noted (entry : Entry) (s : Bench β) : Bench β := { s with host := (Host.note [entry] s.host).2 }

/-- What is left of the attempt to load the known solution, if there is one. -/
def settled (known? : Option KnownSolution) (s : Bench β) : Bench β :=
  match known? with
  | none => s
  | some known =>
    match recalled known s with
    | (.ok (), s) => s
    | (.error e, s) => noted (refusal s.backend e) s

/-- The problem is solved. -/
def solved (s : Bench β) : Except Error Status × Bench β := BenchM.onBackend solve s

/-- The current solution is saved to a new temporary file. -/
def saved (s : Bench β) : Except Error String × Bench β :=
  BenchM.onCache (Cache.onHost (saveSolutionToTemporary s.backend (solutionKind s.backend))) s

/-- The problem file has been hashed and taken over. -/
structure Ready (s : Bench β) (bytes : List UInt8) (t : Bench β) : Prop where
  read : s.host.files.read path = .ok bytes
  taken : taken path format s = (.ok (), t)

/-- There is a known solution that has a status, and it can be loaded. -/
structure Hits (t : Bench β) (bytes : List UInt8) (known : KnownSolution) (u : Bench β) : Prop where
  entry : t.cache.get? (.ofBytes bytes) = some known
  telling : known.status ≠ .unknown
  recalled : recalled known t = (.ok (), u)

/-- The bench on which a problem is solved that has been taken over. -/
def atSolving (bytes : List UInt8) (t : Bench β) : Bench β := settled (t.cache.get? (.ofBytes bytes)) t

/-- The problem file reads the same whenever a run hashes it: once it has been taken over, and once the solution has
been saved. -/
structure Steady (s : Bench β) : Prop where
  taken : ∀ {bytes t}, Ready path format s bytes t → t.host.files.read path = .ok bytes
  saved : ∀ {bytes t u v status file}, Ready path format s bytes t → solved (atSolving bytes t) = (.ok status, u) →
    saved u = (.ok file, v) → v.host.files.read path = .ok bytes

end Stages

/-! ### Moving between backend, cache and bench -/

section Moving

variable {α : Type} {s t : Bench β} {result : Except Error α}

omit [Backend β] in
lemma onBackend_eq_iff {act : BackendM β α} :
    BenchM.onBackend act s = (result, t)
      ↔ act (s.backend, s.host) = (result, (t.backend, t.host)) ∧ t.cache = s.cache := by
  rw [BenchM.onBackend]
  rcases act (s.backend, s.host) with ⟨result', b, h⟩
  constructor
  · intro heq
    obtain ⟨rfl, rfl⟩ := Prod.mk.inj heq
    exact ⟨rfl, rfl⟩
  · rintro ⟨heq, hcache⟩
    obtain ⟨rfl, hstate⟩ := Prod.mk.inj heq
    obtain ⟨rfl, rfl⟩ := Prod.mk.inj hstate
    rw [← hcache]

omit [Backend β] in
lemma onCache_eq_iff {act : CacheM α} :
    BenchM.onCache act s = (result, t)
      ↔ act (s.cache, s.host) = (result, (t.cache, t.host)) ∧ t.backend = s.backend := by
  rw [BenchM.onCache]
  rcases act (s.cache, s.host) with ⟨result', c, h⟩
  constructor
  · intro heq
    obtain ⟨rfl, rfl⟩ := Prod.mk.inj heq
    exact ⟨rfl, rfl⟩
  · rintro ⟨heq, hbackend⟩
    obtain ⟨rfl, hstate⟩ := Prod.mk.inj heq
    obtain ⟨rfl, rfl⟩ := Prod.mk.inj hstate
    rw [← hbackend]

lemma cacheOnHost_eq_iff {act : HostM α} {c c' : Cache} {h h' : Host} :
    Cache.onHost act (c, h) = (result, (c', h')) ↔ act h = (result, h') ∧ c' = c := by
  rw [Cache.onHost]
  rcases act h with ⟨result', h''⟩
  constructor
  · intro heq
    obtain ⟨rfl, hstate⟩ := Prod.mk.inj heq
    obtain ⟨rfl, rfl⟩ := Prod.mk.inj hstate
    exact ⟨rfl, rfl⟩
  · rintro ⟨heq, rfl⟩
    obtain ⟨rfl, rfl⟩ := Prod.mk.inj heq
    rfl

omit [Backend β] in
lemma onHost_apply {act : HostM α} {b : β} {h h' : Host} (hact : act h = (result, h')) :
    BackendM.onHost act (b, h) = (result, (b, h')) := by
  rw [BackendM.onHost, hact]

lemma loading_of_ok {σ : Type} {act : ExceptT Error (StateM σ) α} {x y : σ} {a : α} (path : String)
    (h : act x = (.ok a, y)) : loading path act x = (.ok a, y) := by
  change (Except.mapError (Error.problemLoad path) (act x).1, (act x).2) = _
  rw [h]
  rfl

lemma loading_of_error {σ : Type} {act : ExceptT Error (StateM σ) α} {x y : σ} {e : Error} (path : String)
    (h : act x = (.error e, y)) : loading path act x = (.error (.problemLoad path e), y) := by
  change (Except.mapError (Error.problemLoad path) (act x).1, (act x).2) = _
  rw [h]
  rfl

end Moving

/-! ### A run by its stages -/

section Runs

variable {path : String} {format : ProblemFormat} {s t u v : Bench β} {bytes : List UInt8} {known : KnownSolution}
  {e : Error} {status : Status} {file : String}

lemma Ready.cache (h : Ready path format s bytes t) : t.cache = s.cache := (onBackend_eq_iff.mp h.taken).2

lemma settled_cache (known? : Option KnownSolution) (t : Bench β) : (settled known? t).cache = t.cache := by
  unfold settled
  split
  · rfl
  · split
    · rename_i h
      exact (onBackend_eq_iff.mp h).2
    · rename_i h
      exact (onBackend_eq_iff.mp h).2

lemma loadProblem_of_ready (h : Ready path format s bytes t) :
    BenchM.onBackend (loadProblem path format s.cache) s = (.ok (t.cache.contains (.ofBytes bytes)), t) := by
  have htaken := onBackend_eq_iff.mp h.taken
  have hdigest := loading_of_ok path (onHost_apply (b := s.backend) (Cache.digestOfFile_of_ok h.read))
  refine onBackend_eq_iff.mpr ⟨?_, h.cache⟩
  rw [loadProblem, bind_apply_ok _ hdigest, bind_apply_ok _ (loading_of_ok path htaken.1), htaken.2]
  rfl

/-- A known solution is loaded, and its status is that of the answer. -/
lemma loadKnownSolution_of_entry (hread : t.host.files.read path = .ok bytes)
    (hentry : t.cache.get? (.ofBytes bytes) = some known) :
    BenchM.onBackend (loadKnownSolution path t.cache) t
      = ((recalled known t).1.map fun _ => known.status, (recalled known t).2) := by
  cases hrecalled : recalled known t with
  | mk result u =>
      obtain ⟨hload, hcache⟩ := onBackend_eq_iff.mp hrecalled
      refine onBackend_eq_iff.mpr ⟨?_, hcache⟩
      rw [loadKnownSolution, bind_apply_ok _ (onHost_apply (Cache.digestOfFile_of_ok hread)), hentry]
      cases result with
      | ok => exact bind_apply_ok _ hload
      | error e => exact bind_apply_error _ hload

lemma reuse_of_loaded (h : BenchM.onBackend (loadKnownSolution path s.cache) s = (.ok status, t)) :
    reuse path s = (.ok status, t) := by
  rw [reuse, h]

lemma reuse_of_refused (h : BenchM.onBackend (loadKnownSolution path s.cache) s = (.error e, t)) :
    reuse path s = (.ok .unknown, noted (refusal t.backend e) t) := by
  rw [reuse, h]
  rfl

/-- What a cache knows of a problem is made use of, and the status is unknown if that is not possible. -/
def answer (path : String) (isKnown : Bool) : BenchM β Status := if isKnown then reuse path else pure .unknown

/-- Solve the problem, save the solution and register it. -/
def solveAndRegister (path : String) : BenchM β Status := do
  let status ← BenchM.onBackend solve
  BenchM.onCache (registerSolution (← get).backend path status)
  pure status

/-- A status that tells something is the answer, and otherwise the problem is solved. -/
def concluded (path : String) (status : Status) : BenchM β Status :=
  if status ≠ .unknown then do
    BenchM.onBackend (BackendM.onHost (Host.note [reuseNotice (← get).backend path status]))
    pure status
  else solveAndRegister path

/-- A run has three parts, which only depend on the state and the status that the part before leaves. -/
lemma runCached_apply (s : Bench β) :
    runCached path format s
      = (BenchM.onBackend (loadProblem path format s.cache) >>= fun isKnown =>
          answer path isKnown >>= concluded path) s := by
  rw [runCached, bind_apply_ok _ (get_apply s)]
  refine congrArg (fun f => (BenchM.onBackend (loadProblem path format s.cache) >>= f) s) (funext fun isKnown => ?_)
  cases isKnown <;> rfl

lemma answer_of_hit (hread : t.host.files.read path = .ok bytes) (h : Hits t bytes known u) :
    answer path (t.cache.contains (.ofBytes bytes)) t = (.ok known.status, u) := by
  rw [answer, if_pos (by simp [Cache.contains, h.entry])]
  refine reuse_of_loaded ?_
  rw [loadKnownSolution_of_entry hread h.entry, h.recalled]
  rfl

/-- Without a hit the status is unknown, whatever has become of a known solution. -/
lemma answer_of_no_hit (hread : t.host.files.read path = .ok bytes) (hmiss : ¬∃ known u, Hits t bytes known u) :
    answer path (t.cache.contains (.ofBytes bytes)) t = (.ok .unknown, atSolving bytes t) := by
  rw [answer, atSolving]
  cases hentry : t.cache.get? (.ofBytes bytes) with
  | none =>
      rw [if_neg (by simp [Cache.contains, hentry])]
      rfl
  | some known =>
      have hload := loadKnownSolution_of_entry hread hentry
      rw [if_pos (by simp [Cache.contains, hentry]), settled]
      cases hrecalled : recalled known t with
      | mk result u =>
          rw [hrecalled] at hload
          cases result with
          | ok =>
              have hstatus : known.status = .unknown := by
                by_contra htelling
                exact hmiss ⟨known, u, hentry, htelling, hrecalled⟩
              rw [← hstatus]
              exact reuse_of_loaded hload
          | error e => exact reuse_of_refused hload

/-- **A problem file that cannot be hashed or taken over is not loaded**, and nothing else has been done. -/
lemma loadProblem_of_not_ready (h : ¬∃ bytes t, Ready path format s bytes t) :
    ∃ e t, BenchM.onBackend (loadProblem path format s.cache) s = (.error (.problemLoad path e), t)
      ∧ t.cache = s.cache ∧ (t = s ∨ taken path format s = (.error e, t)) := by
  cases hread : s.host.files.read path with
  | error fault =>
      have hdigest := loading_of_error path (onHost_apply (b := s.backend) (Cache.digestOfFile_of_error hread))
      refine ⟨.file fault, s, onBackend_eq_iff.mpr ⟨?_, rfl⟩, rfl, .inl rfl⟩
      rw [loadProblem, bind_apply_error _ hdigest]
  | ok bytes =>
      have hdigest := loading_of_ok path (onHost_apply (b := s.backend) (Cache.digestOfFile_of_ok hread))
      cases htaken : taken path format s with
      | mk result t =>
          cases result with
          | ok => exact absurd ⟨bytes, t, hread, htaken⟩ h
          | error e =>
              have hload := onBackend_eq_iff.mp htaken
              refine ⟨e, t, onBackend_eq_iff.mpr ⟨?_, hload.2⟩, hload.2, .inr rfl⟩
              rw [loadProblem, bind_apply_ok _ hdigest, bind_apply_error _ (loading_of_error path hload.1)]

lemma runCached_of_unloaded (h : BenchM.onBackend (loadProblem path format s.cache) s = (.error e, t)) :
    runCached path format s = (.error e, t) := by
  rw [runCached_apply, bind_apply_error _ h]

/-- **A hit** is answered with the status of the entry, and nothing is solved. -/
lemma runCached_of_hit (hsteady : Steady path format s) (hready : Ready path format s bytes t)
    (h : Hits t bytes known u) :
    runCached path format s = (.ok known.status, noted (reuseNotice u.backend path known.status) u) := by
  rw [runCached_apply, bind_apply_ok _ (loadProblem_of_ready hready),
    bind_apply_ok _ (answer_of_hit (hsteady.taken hready) h), concluded, if_pos h.telling]
  rfl

/-- **A miss** is solved and registered. -/
lemma runCached_of_miss (hsteady : Steady path format s) (hready : Ready path format s bytes t)
    (hmiss : ¬∃ known u, Hits t bytes known u) :
    runCached path format s = solveAndRegister path (atSolving bytes t) := by
  rw [runCached_apply, bind_apply_ok _ (loadProblem_of_ready hready),
    bind_apply_ok _ (answer_of_no_hit (hsteady.taken hready) hmiss), concluded, if_neg (by simp)]

lemma solveAndRegister_of_unsolved (h : solved s = (.error e, t)) : solveAndRegister path s = (.error e, t) :=
  bind_apply_error _ h

/-- Once the problem is solved, the rest is up to the cache. -/
lemma solveAndRegister_of_solved (h : solved s = (.ok status, t)) :
    solveAndRegister path s
      = BenchM.onCache (registerSolution t.backend path status >>= fun _ => pure status) t := by
  refine (bind_apply_ok _ h).trans ((bind_apply_ok _ (get_apply t)).trans ?_)
  rw [bind_apply, BenchM.onCache, BenchM.onCache, bind_apply]
  rcases registerSolution t.backend path status (t.cache, t.host) with ⟨_ | _, _, _⟩ <;> rfl

lemma solveAndRegister_of_unsaved (h : solved s = (.ok status, t)) (hsaved : saved t = (.error e, u)) :
    solveAndRegister path s = (.error e, u) := by
  obtain ⟨hsave, hbackend⟩ := onCache_eq_iff.mp hsaved
  have hregister : registerSolution t.backend path status (t.cache, t.host) = (.error e, (u.cache, u.host)) :=
    bind_apply_error _ hsave
  rw [solveAndRegister_of_solved h]
  exact onCache_eq_iff.mpr ⟨bind_apply_error _ hregister, hbackend⟩

lemma saved_cache {result : Except Error String} (h : saved s = (result, t)) : t.cache = s.cache :=
  (cacheOnHost_eq_iff.mp (onCache_eq_iff.mp h).1).2

/-- **A solution that has been found and saved is registered** under the digest of the problem file. -/
lemma solveAndRegister_of_saved (h : solved s = (.ok status, t)) (hsaved : saved t = (.ok file, u))
    (hread : u.host.files.read path = .ok bytes) :
    ∃ v, solveAndRegister path s = (.ok status, v)
      ∧ v.cache = s.cache.insert (.ofBytes bytes) ⟨file, status, solutionKind t.backend⟩ := by
  obtain ⟨hsave, -⟩ := onCache_eq_iff.mp hsaved
  have hcache : u.cache = s.cache := (saved_cache hsaved).trans (onBackend_eq_iff.mp h).2
  have hregister : registerSolution t.backend path status (t.cache, t.host)
      = Cache.registerAs (.ofBytes bytes) path ⟨file, status, solutionKind t.backend⟩ (s.cache, u.host) := by
    rw [registerSolution, bind_apply_ok _ hsave, Cache.register_of_ok hread, hcache]
  rw [solveAndRegister_of_solved h, BenchM.onCache, bind_apply, hregister]
  exact ⟨_, rfl, rfl⟩

/-! ### Files that a run leaves alone -/

/-- The operations of the backend leave a file alone in the calls that a run makes of them, and saving leaves the new
temporary file where it is, or nothing there. -/
structure Sparing (path : String) (format : ProblemFormat) (s : Bench β) (other : String) : Prop where
  taking : s.host.files.Untouched (taken path format s).2.host.files other
  recalling : ∀ {bytes t known}, Ready path format s bytes t → t.cache.get? (.ofBytes bytes) = some known →
    t.host.files.Untouched (recalled known t).2.host.files other
  solving : ∀ {bytes t}, Ready path format s bytes t →
    (atSolving bytes t).host.files.Untouched (solved (atSolving bytes t)).2.host.files other
  saving : ∀ {bytes t status u file h result h'}, Ready path format s bytes t →
    solved (atSolving bytes t) = (.ok status, u) →
    Host.makeTemporary (name u.backend ++ "-") "-solution.lp" u.host = (.ok file, h) →
    saveSolution u.backend file (solutionKind u.backend) h = (result, h') →
    h.files.Untouched h'.files other ∧ h'.files.Clear file other

lemma Sparing.settling {other : String} (h : Sparing path format s other) (hready : Ready path format s bytes t) :
    t.host.files.Untouched (atSolving bytes t).host.files other := by
  rw [atSolving]
  cases hentry : t.cache.get? (.ofBytes bytes) with
  | none => exact Files.Untouched.refl _ _
  | some known =>
      have hrecalling := h.recalling hready hentry
      rw [settled]
      cases hrecalled : recalled known t with
      | mk result u =>
          rw [hrecalled] at hrecalling
          cases result <;> exact hrecalling

/-- Saving that fails takes its temporary file away again. -/
lemma Sparing.unsaved {other : String} (h : Sparing path format s other) (hready : Ready path format s bytes t)
    (hsolved : solved (atSolving bytes t) = (.ok status, u)) (hsaved : saved u = (.error e, v)) :
    u.host.files.Untouched v.host.files other := by
  have hsave : saveSolutionToTemporary u.backend (solutionKind u.backend) u.host = (.error e, v.host) :=
    (cacheOnHost_eq_iff.mp (onCache_eq_iff.mp hsaved).1).1
  rcases Host.makes_of_makeTemporary (name u.backend ++ "-") "-solution.lp" u.host with
    ⟨file, host, place, hmake, hmakes⟩ | ⟨fault, -, hmake⟩
  · rw [saveSolutionToTemporary, bind_apply_ok _ hmake, bind_eq_error_iff] at hsave
    rcases hsave with hfailed | ⟨_, _, _, hpure⟩
    · obtain ⟨host', hact, hdiscard⟩ := Host.discardOnError_eq_error_iff.mp hfailed
      obtain ⟨huntouched, hclear⟩ := h.saving hready hsolved hmake hact
      rw [← hdiscard]
      exact ((hmakes.untouched other).trans huntouched).trans (Host.discard_untouched hclear)
    · cases hpure
  · rw [saveSolutionToTemporary, bind_apply_error _ hmake] at hsave
    rw [← (Prod.mk.inj hsave).2]
    exact Files.Untouched.refl _ _

/-- **A run that fails leaves every file alone that the backend leaves alone**, and so the files of a cache. -/
lemma Sparing.untouched {other : String} (h : Sparing path format s other) (hsteady : Steady path format s)
    (herror : (runCached path format s).1 = .error e) :
    s.host.files.Untouched (runCached path format s).2.host.files other := by
  by_cases hready : ∃ bytes t, Ready path format s bytes t
  · obtain ⟨bytes, t, hready⟩ := hready
    have htaking : s.host.files.Untouched t.host.files other := by
      have htaking := h.taking
      rwa [hready.taken] at htaking
    by_cases hhit : ∃ known u, Hits t bytes known u
    · obtain ⟨known, u, hhit⟩ := hhit
      rw [runCached_of_hit hsteady hready hhit] at herror
      cases herror
    · have hmiss := runCached_of_miss hsteady hready hhit
      rw [hmiss] at herror ⊢
      have hbefore := htaking.trans (h.settling hready)
      have hsolving := h.solving hready
      cases hsolved : solved (atSolving bytes t) with
      | mk result u =>
          rw [hsolved] at hsolving
          cases result with
          | error e =>
              rw [solveAndRegister_of_unsolved hsolved]
              exact hbefore.trans hsolving
          | ok status =>
              cases hsaved : saved u with
              | mk result v =>
                  cases result with
                  | error e =>
                      rw [solveAndRegister_of_unsaved hsolved hsaved]
                      exact (hbefore.trans hsolving).trans (h.unsaved hready hsolved hsaved)
                  | ok file =>
                      obtain ⟨w, hrun, -⟩ := solveAndRegister_of_saved hsolved hsaved
                        (hsteady.saved hready hsolved hsaved)
                      rw [hrun] at herror
                      cases herror
  · obtain ⟨e', t, hload, -, htaken⟩ := loadProblem_of_not_ready hready
    rw [runCached_of_unloaded hload]
    rcases htaken with rfl | htaken
    · exact Files.Untouched.refl _ _
    · have htaking := h.taking
      rwa [htaken] at htaking

end Runs

end Backend

/-! ### Counting -/

/-- A backend that counts how often it solves. -/
structure Counted (β : Type) where
  backend : β
  solves : ℕ

namespace Counted

variable {β α : Type}

/-- A computation on the backend inside, which counts as a number of times that it solves. -/
def inside (times : ℕ) (act : BackendM β α) : BackendM (Counted β) α := fun (b, h) =>
  let (result, (backend, h)) := act (b.backend, h)
  (result, (⟨backend, b.solves + times⟩, h))

lemma inside_bind {γ : Type} (x : BackendM β α) (f : α → BackendM β γ) :
    inside 0 (x >>= f) = inside 0 x >>= fun a => inside 0 (f a) := by
  funext ⟨b, h⟩
  rw [bind_apply, inside, bind_apply, inside]
  rcases x (b.backend, h) with ⟨_ | a, _, _⟩ <;> rfl

open Backend in
instance [Backend β] : Backend (Counted β) where
  solverKind b := solverKind b.backend
  name b := name b.backend
  solutionKind b := solutionKind b.backend
  solution b := solution b.backend
  problemFile b := problemFile b.backend
  problemFormat b := problemFormat b.backend
  solutionFile b := solutionFile b.backend
  variableValue b := variableValue b.backend
  doLoadProblem path format := inside 0 (doLoadProblem path format)
  saveProblem b := saveProblem b.backend
  loadSolution path kind := inside 0 (loadSolution path kind)
  saveSolution b := saveSolution b.backend
  solve := inside 1 solve
  dispose b := dispose b.backend

end Counted

/-- A bench with a backend that has solved a number of times. -/
def Bench.counted {β : Type} (s : Bench β) (solves : ℕ) : Bench (Counted β) :=
  ⟨⟨s.backend, solves⟩, s.cache, s.host⟩

namespace Backend

variable {β : Type} [Backend β]

/-- A computation does the same on a backend that counts, and solves a number of times. -/
def Tallies {α : Type} (times : ℕ) (act' : BenchM (Counted β) α) (act : BenchM β α) : Prop :=
  ∀ s n, act' (s.counted n) = ((act s).1, (act s).2.counted (n + times))

section Counting

variable {α : Type} {path : String} {format : ProblemFormat} {s t u : Bench β}

omit [Backend β] in
lemma tallies_inside (times : ℕ) (act : BackendM β α) :
    Tallies times (BenchM.onBackend (Counted.inside times act)) (BenchM.onBackend act) := fun _ _ => rfl

omit [Backend β] in
lemma tallies_onCache (act : CacheM α) : Tallies 0 (BenchM.onCache act) (BenchM.onCache act : BenchM β α) := fun _ _ => rfl

omit [Backend β] in
lemma inside_loading (act : BackendM β α) :
    loading path (Counted.inside 0 act) = Counted.inside 0 (loading path act) := by
  funext ⟨b, h⟩
  rfl

lemma tallies_loadProblem (path : String) (format : ProblemFormat) (c : Cache) :
    Tallies 0 (BenchM.onBackend (loadProblem path format c))
      (BenchM.onBackend (loadProblem path format c) : BenchM β Bool) := by
  have hinside : (loadProblem path format c : BackendM (Counted β) Bool) = Counted.inside 0 (loadProblem path format c) := by
    simp only [loadProblem, Counted.inside_bind, ← inside_loading]
    rfl
  rw [hinside]
  exact tallies_inside 0 _

lemma tallies_loadKnownSolution (path : String) (c : Cache) :
    Tallies 0 (BenchM.onBackend (loadKnownSolution path c))
      (BenchM.onBackend (loadKnownSolution path c) : BenchM β Status) := by
  have hinside : (loadKnownSolution path c : BackendM (Counted β) Status)
      = Counted.inside 0 (loadKnownSolution path c) := by
    rw [loadKnownSolution, loadKnownSolution, Counted.inside_bind]
    refine congrArg (BackendM.onHost (digestOfFile path) >>= ·) (funext fun d => ?_)
    cases c.get? d with
    | none => rfl
    | some known => exact (Counted.inside_bind (loadSolution known.file known.kind) fun _ => pure known.status).symm
  rw [hinside]
  exact tallies_inside 0 _

lemma tallies_answer (path : String) (isKnown : Bool) :
    Tallies 0 (answer path isKnown) (answer path isKnown : BenchM β Status) := by
  intro s n
  cases isKnown with
  | false => rfl
  | true =>
      have htally := tallies_loadKnownSolution path s.cache s n
      rw [answer, answer, if_pos rfl, if_pos rfl]
      cases hload : BenchM.onBackend (loadKnownSolution path s.cache) s with
      | mk result t =>
          rw [hload] at htally
          cases result with
          | ok status => rw [reuse_of_loaded hload, reuse_of_loaded htally]
          | error e =>
              rw [reuse_of_refused hload, reuse_of_refused htally]
              rfl

/-- Whatever comes of it, the problem is solved once. -/
lemma tallies_solveAndRegister (path : String) :
    Tallies 1 (solveAndRegister path) (solveAndRegister path : BenchM β Status) := by
  intro s n
  have hsolve : solved (s.counted n) = ((solved s).1, (solved s).2.counted (n + 1)) := tallies_inside 1 solve s n
  cases hsolved : solved s with
  | mk result t =>
      rw [hsolved] at hsolve
      cases result with
      | error e => rw [solveAndRegister_of_unsolved hsolved, solveAndRegister_of_unsolved hsolve]
      | ok status =>
          rw [solveAndRegister_of_solved hsolved, solveAndRegister_of_solved hsolve]
          exact tallies_onCache ..

/-- A run whose problem is not loaded does not solve. -/
lemma runCached_counted_of_error {e : Error}
    (hload : BenchM.onBackend (loadProblem path format s.cache) s = (.error e, t)) (n : ℕ) :
    runCached path format (s.counted n) = ((runCached path format s).1, (runCached path format s).2.counted n) := by
  have hload' := tallies_loadProblem path format s.cache s n
  rw [hload] at hload'
  rw [runCached_of_unloaded hload]
  exact runCached_of_unloaded hload'

/-- **A run solves once if there is no answer, and otherwise not at all.** -/
lemma runCached_counted_of_answer {isKnown : Bool} {status : Status}
    (hload : BenchM.onBackend (loadProblem path format s.cache) s = (.ok isKnown, t))
    (hanswer : answer path isKnown t = (.ok status, u)) (n : ℕ) :
    runCached path format (s.counted n)
      = ((runCached path format s).1, (runCached path format s).2.counted (n + if status = .unknown then 1 else 0)) := by
  have hload' := tallies_loadProblem path format s.cache s n
  have hanswer' := tallies_answer path isKnown t n
  rw [hload] at hload'
  rw [hanswer] at hanswer'
  rw [runCached_apply, runCached_apply, bind_apply_ok _ hload, bind_apply_ok _ hanswer]
  refine (bind_apply_ok _ hload').trans ((bind_apply_ok _ hanswer').trans ?_)
  rw [concluded, concluded]
  by_cases hunknown : status = .unknown
  · rw [if_neg (by simpa using hunknown), if_neg (by simpa using hunknown), if_pos hunknown]
    exact tallies_solveAndRegister path u n
  · rw [if_pos hunknown, if_pos hunknown, if_neg hunknown]
    rfl

end Counting

/-! ### The contract -/

/-- **The contract of a run with a cache.** A hit is answered with the status of its entry, and nothing is solved. A
miss is solved once; if the solution is found and saved, it is registered, and otherwise the run fails as the stage
that has failed. Where the problem file cannot be hashed or taken over, nothing is solved and the run fails. The cache
changes in no other way, a failing run leaves its files alone if the backend does, and counting how often the backend
solves makes no difference. -/
theorem runCached_contract (path : String) (format : ProblemFormat) (s : Bench β) (hsteady : Steady path format s) :
    let run := runCached path format s
    ∃ solves, runCached path format (s.counted 0) = (run.1, run.2.counted solves)
      ∧ (∀ bytes t known u, Ready path format s bytes t → Hits t bytes known u →
          run = (.ok known.status, noted (reuseNotice u.backend path known.status) u)
            ∧ solves = 0 ∧ run.2.cache = s.cache)
      ∧ (∀ bytes t, Ready path format s bytes t → (¬∃ known u, Hits t bytes known u) →
          solves = 1
            ∧ (∀ status u file v, solved (atSolving bytes t) = (.ok status, u) → saved u = (.ok file, v) →
                run.1 = .ok status
                  ∧ run.2.cache = s.cache.insert (.ofBytes bytes) ⟨file, status, solutionKind u.backend⟩)
            ∧ (∀ e u, solved (atSolving bytes t) = (.error e, u) → run = (.error e, u) ∧ run.2.cache = s.cache)
            ∧ (∀ status u e v, solved (atSolving bytes t) = (.ok status, u) → saved u = (.error e, v) →
                run = (.error e, v) ∧ run.2.cache = s.cache))
      ∧ ((¬∃ bytes t, Ready path format s bytes t) →
          solves = 0 ∧ run.2.cache = s.cache ∧ ∃ e, run.1 = .error (.problemLoad path e))
      ∧ (∀ other e, run.1 = .error e → Sparing path format s other →
          s.host.files.Untouched run.2.host.files other) := by
  intro run
  by_cases hready : ∃ bytes t, Ready path format s bytes t
  · obtain ⟨bytes, t, hready⟩ := hready
    have hload := loadProblem_of_ready hready
    have hread := hsteady.taken hready
    have hsame : ∀ {bytes' t'}, Ready path format s bytes' t' → bytes' = bytes ∧ t' = t := fun hready' =>
      ⟨Except.ok.inj (hready'.read.symm.trans hready.read), (Prod.mk.inj (hready'.taken.symm.trans hready.taken)).2⟩
    by_cases hhit : ∃ known u, Hits t bytes known u
    · obtain ⟨known, u, hhit⟩ := hhit
      have hcount := runCached_counted_of_answer hload (answer_of_hit hread hhit) 0
      rw [if_neg hhit.telling] at hcount
      refine ⟨0, hcount, ?_, ?_, fun hnot => absurd ⟨bytes, t, hready⟩ hnot, fun other e he h => h.untouched hsteady he⟩
      · intro bytes' t' known' u' hready' hhit'
        have hrun := runCached_of_hit hsteady hready' hhit'
        refine ⟨hrun, rfl, ?_⟩
        change (runCached path format s).2.cache = s.cache
        rw [hrun]
        exact (onBackend_eq_iff.mp hhit'.recalled).2.trans hready'.cache
      · intro bytes' t' hready' hmiss
        obtain ⟨rfl, rfl⟩ := hsame hready'
        exact absurd ⟨known, u, hhit⟩ hmiss
    · have hcount := runCached_counted_of_answer hload (answer_of_no_hit hread hhit) 0
      have hmiss : run = solveAndRegister path (atSolving bytes t) := runCached_of_miss hsteady hready hhit
      have hcache : (atSolving bytes t).cache = s.cache := (settled_cache _ t).trans hready.cache
      rw [if_pos rfl] at hcount
      refine ⟨1, hcount, ?_, ?_, fun hnot => absurd ⟨bytes, t, hready⟩ hnot, fun other e he h => h.untouched hsteady he⟩
      · intro bytes' t' known' u' hready' hhit'
        obtain ⟨rfl, rfl⟩ := hsame hready'
        exact absurd ⟨known', u', hhit'⟩ hhit
      · intro bytes' t' hready' _
        obtain ⟨rfl, rfl⟩ := hsame hready'
        refine ⟨rfl, ?_, ?_, ?_⟩
        · intro status u file v hsolved hsaved
          obtain ⟨w, hrun, hinsert⟩ := solveAndRegister_of_saved hsolved hsaved (hsteady.saved hready hsolved hsaved)
          rw [hmiss, hrun, ← hcache]
          exact ⟨rfl, hinsert⟩
        · intro e u hsolved
          rw [hmiss, solveAndRegister_of_unsolved hsolved, ← hcache]
          exact ⟨rfl, (onBackend_eq_iff.mp hsolved).2⟩
        · intro status u e v hsolved hsaved
          rw [hmiss, solveAndRegister_of_unsaved hsolved hsaved, ← hcache]
          exact ⟨rfl, (saved_cache hsaved).trans (onBackend_eq_iff.mp hsolved).2⟩
  · obtain ⟨e, t, hload, hcache, -⟩ := loadProblem_of_not_ready hready
    have hrun : run = (.error (.problemLoad path e), t) := runCached_of_unloaded hload
    refine ⟨0, runCached_counted_of_error hload 0, fun bytes t known u h => absurd ⟨bytes, t, h⟩ hready,
      fun bytes t h => absurd ⟨bytes, t, h⟩ hready, fun _ => ?_, fun other e he h => h.untouched hsteady he⟩
    rw [hrun]
    exact ⟨rfl, hcache, e, rfl⟩

/-- A backend with one report, a cache with nothing in it, and a problem file. -/
def rehearsal : Bench RehearsedSolver where
  backend := .new "Rehearsed" [Utf8.encode "Status: OPTIMAL\nColumn Activity\nx0 1\n"] [] .basic
  cache := .new 1
  host :=
    { files :=
        { entries := [(["p.lp"], .file 0), (["tmp"], .directory)]
          numbered := #[⟨[0x61], false⟩] }
      tempDirectory := "/tmp"
      nextTemp := 0
      tempNames := []
      journal := []
      launcher := fun _ files => (.error .notFound, files) }

lemma steady_rehearsal : Steady "/p.lp" .cplex rehearsal := by
  have hread : rehearsal.host.files.read "/p.lp" = .ok [0x61] := by decide +kernel
  constructor
  · intro bytes t hready
    obtain rfl := Except.ok.inj (hread.symm.trans hready.read)
    have ht : (taken "/p.lp" .cplex rehearsal).2 = t := congrArg Prod.snd hready.taken
    rw [← ht]
    decide +kernel
  · intro bytes t u v status file hready hsolved hsaved
    obtain rfl := Except.ok.inj (hread.symm.trans hready.read)
    have ht : (taken "/p.lp" .cplex rehearsal).2 = t := congrArg Prod.snd hready.taken
    subst ht
    have hu : (solved (atSolving [0x61] (taken "/p.lp" .cplex rehearsal).2)).2 = u := congrArg Prod.snd hsolved
    subst hu
    have hv := congrArg Prod.snd hsaved
    simp only at hv
    rw [← hv]
    decide +kernel

theorem runCached_contract_rehearsal :
    (runCached "/p.lp" .cplex (rehearsal.counted 0)).2.backend.solves = 1
      ∧ ((runCached "/p.lp" .cplex rehearsal).2.cache.get? (.ofBytes [0x61])).map KnownSolution.status = some .optimal := by
  obtain ⟨solves, hcounted, -, hmiss, -⟩ := runCached_contract "/p.lp" .cplex rehearsal steady_rehearsal
  have hread : rehearsal.host.files.read "/p.lp" = .ok [0x61] := by decide +kernel
  have hready : Ready "/p.lp" .cplex rehearsal [0x61] (taken "/p.lp" .cplex rehearsal).2 := ⟨hread, rfl⟩
  have hnew : (taken "/p.lp" .cplex rehearsal).2.cache.get? (.ofBytes [0x61]) = none := by decide +kernel
  obtain ⟨rfl, hfound, -⟩ := hmiss _ _ hready fun ⟨known, u, h⟩ => absurd (hnew.symm.trans h.entry) (by simp)
  refine ⟨by rw [hcounted]; rfl, ?_⟩
  obtain ⟨-, hcache⟩ := hfound .optimal _ "/tmp/Rehearsed-000000-solution.lp" _
    (Prod.ext (by decide +kernel) rfl) (Prod.ext (by decide +kernel) rfl)
  rw [hcache, Cache.get?_insert_self]
  rfl

end Backend

end LinearProgram
