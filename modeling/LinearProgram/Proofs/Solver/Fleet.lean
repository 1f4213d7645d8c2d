import LinearProgram.Proofs.Solver.Bench

/-!
Backends that share caches and a host.

Each backend starts a program of its own. Whoever uses them asks one of them for something, with a cache at hand, or
clears a cache, or lets something else happen to the files. Everybody keeps away from the files that are owned:
programs keep to themselves, problems and solutions are not saved onto them, and others leave them alone. Then nothing
that is owned is ever lost, and no file is owned twice.

* `Operation`: what a backend can be asked for, and `Operation.perform`, what it then does.
* `Fleet`, `Request`, `Fleet.step`, `Fleet.after`: backends, caches and a host, and what happens to them.
* `Request.Proper`: a request that keeps away from the files that are owned; `Request.Careful`: a request that keeps away
  from the files of caches, but may put a solution in the place of another one.
* `Fleet.Kept`: every owner has its files, and no two owners have one in common.
* `Fleet.Sound`: the solution of a backend also belongs to its file.
* `Fleet.Alters`: what becomes of a fleet when some owners act; `Fleet.Alters.kept`: **every owner still has its files.**
* `Fleet.Kept.alters_step`: this is what careful requests do.
* `Fleet.Sound.step`, `Fleet.Sound.after`: **a fleet stays sound, whatever it is asked for.**
-/

namespace LinearProgram

open CommandSolver (keepsToItself_of_same)

/-! ### Operations -/

/-- What a backend with a cache at hand can be asked for. -/
inductive Operation where
  | doLoadProblem (path : String) (format : ProblemFormat)
  | loadProblem (path : String) (format : ProblemFormat)
  | loadKnownSolution (path : String)
  | loadSolution (path : String) (kind : SolutionKind)
  | saveProblem (path : String) (format : ProblemFormat)
  | saveSolution (path : String) (kind : SolutionKind)
  | saveSolutionToTemporary (kind : SolutionKind)
  | registerSolution (path : String) (status : Status)
  | solve
  | runAlone (path : String) (format : ProblemFormat)
  | runCached (path : String) (format : ProblemFormat)

namespace Operation

variable {α : Type}

/-- A computation that is not asked for a status. -/
def untold (act : BenchM CommandSolver α) : BenchM CommandSolver (Option Status) := act >>= fun _ => pure none

/-- A computation that tells a status. -/
def told (act : BenchM CommandSolver Status) : BenchM CommandSolver (Option Status) := act >>= fun status => pure (some status)

/-- What a backend does when it is asked for an operation, and the status that it then tells, if any. -/
def perform : Operation → BenchM CommandSolver (Option Status)
  | doLoadProblem path format => untold (BenchM.onBackend (Backend.doLoadProblem path format))
  | loadProblem path format => untold (do BenchM.onBackend (Backend.loadProblem path format (← get).cache))
  | loadKnownSolution path => told (do BenchM.onBackend (Backend.loadKnownSolution path (← get).cache))
  | loadSolution path kind => untold (BenchM.onBackend (Backend.loadSolution path kind))
  | saveProblem path format =>
    untold (BenchM.onBackend (BackendM.reading fun s => Backend.saveProblem s path format))
  | saveSolution path kind => untold (BenchM.onBackend (BackendM.reading fun s => Backend.saveSolution s path kind))
  | saveSolutionToTemporary kind =>
    untold (BenchM.onBackend (BackendM.reading fun s => Backend.saveSolutionToTemporary s kind))
  | registerSolution path status => untold (Bench.register path status)
  | solve => told (BenchM.onBackend Backend.solve)
  | runAlone path format => told (BenchM.onBackend (Backend.runAlone path format))
  | runCached path format => told (Backend.runCached path format)

lemma untold_apply (act : BenchM CommandSolver α) (t : Bench CommandSolver) :
    untold act t = ((act t).1.map fun _ => none, (act t).2) := by
  rw [untold, bind_apply]
  rcases act t with ⟨_ | _, _⟩ <;> rfl

lemma told_apply (act : BenchM CommandSolver Status) (t : Bench CommandSolver) :
    told act t = ((act t).1.map some, (act t).2) := by
  rw [told, bind_apply]
  rcases act t with ⟨_ | _, _⟩ <;> rfl

/-- An operation saves something to a file that its user names. -/
def Saves : Operation → Prop
  | saveProblem .. => True
  | saveSolution .. => True
  | _ => False

/-- An operation may give the cache another entry. -/
def Registers : Operation → Prop
  | registerSolution .. => True
  | runCached .. => True
  | _ => False

end Operation

namespace Bench

open CommandSolver

variable {t : Bench CommandSolver} {α : Type}

lemma keeps_runAlone (path : String) (format : ProblemFormat) :
    Keeps (BenchM.onBackend (Backend.runAlone path format)) :=
  keeps_onBackend (((confines_doLoadProblem path format).loading path).bind fun _ => confines_solve)

/-- An operation that neither saves something nor registers a solution leaves the cache alone. -/
lemma keeps_perform {op : Operation} (hsaves : ¬op.Saves) (hregisters : ¬op.Registers) : Keeps op.perform := by
  cases op with
  | doLoadProblem path format => exact (keeps_onBackend (confines_doLoadProblem path format)).bind fun _ => keeps_pure _
  | loadProblem path format =>
      exact (keeps_get.bind fun t => keeps_onBackend (confines_loadProblem path format t.cache)).bind fun _ => keeps_pure _
  | loadKnownSolution path =>
      exact (keeps_get.bind fun t => keeps_onBackend (confines_loadKnownSolution path t.cache)).bind fun _ => keeps_pure _
  | loadSolution path kind => exact (keeps_onBackend (confines_loadSolution path kind)).bind fun _ => keeps_pure _
  | saveProblem path format => exact absurd trivial hsaves
  | saveSolution path kind => exact absurd trivial hsaves
  | saveSolutionToTemporary kind => exact (keeps_onBackend (confines_saveSolutionToTemporary kind)).bind fun _ => keeps_pure _
  | registerSolution path status => exact absurd trivial hregisters
  | solve => exact (keeps_onBackend confines_solve).bind fun _ => keeps_pure _
  | runAlone path format => exact (keeps_runAlone path format).bind fun _ => keeps_pure _
  | runCached path format => exact absurd trivial hregisters

/-- **An operation that saves nothing touches only files of its backend and its cache**, and new ones. -/
lemma confines_perform {op : Operation} (hsaves : ¬op.Saves) : Confines op.perform := by
  by_cases hregisters : op.Registers
  · cases op with
    | registerSolution path status => exact (confines_register path status).map fun _ => none
    | runCached path format => exact (confines_runCached path format).map some
    | _ => exact absurd hregisters id
  · exact (keeps_perform hsaves hregisters).1

/-- Only an operation that registers a solution changes the cache. -/
lemma cache_perform {op : Operation} (hregisters : ¬op.Registers) (t : Bench CommandSolver) :
    (op.perform t).2.cache = t.cache := by
  by_cases hsaves : op.Saves
  · cases op with
    | saveProblem path format => rw [Operation.perform, Operation.untold_apply]; rfl
    | saveSolution path kind => rw [Operation.perform, Operation.untold_apply]; rfl
    | _ => exact absurd hsaves id
  · exact (keeps_perform hsaves hregisters).2 t

end Bench

/-! ### Fleets -/

/-- Backends that start programs, caches, and the host that they share. -/
structure Fleet (ι κ : Type) where
  solvers : ι → CommandSolver
  caches : κ → Cache
  host : Host

/-- What can happen to a fleet. -/
inductive Request (ι κ : Type) where
  /-- A backend is asked for an operation, with a cache at hand. -/
  | ask (solver : ι) (cache : κ) (op : Operation)
  /-- A cache is cleared. -/
  | clear (cache : κ)
  /-- Others do something to the files. -/
  | outside (change : Files → Files)

namespace Fleet

variable {ι κ : Type}

/-- A backend and a cache of the fleet on its host. -/
def bench (x : Fleet ι κ) (i : ι) (k : κ) : Bench CommandSolver := ⟨x.solvers i, x.caches k, x.host⟩

/-- A file that a backend or a cache owns. -/
def Holds (x : Fleet ι κ) (path : String) : ι ⊕ κ → Prop
  | .inl i => path ∈ (x.solvers i).solutionFile
  | .inr k => ∃ e ∈ (x.caches k).entries, e.2.file = path

/-- A path leads to none of the files that are owned. -/
def Foreign (x : Fleet ι κ) (path : String) : Prop := ∀ o p, x.Holds p o → ¬x.host.files.LeadsTo path p

/-- Nothing has been solved or loaded yet. -/
structure Fresh (x : Fleet ι κ) : Prop where
  solvers : ∀ i, (x.solvers i).solutionFile = none ∧ (x.solvers i).solution = .none
  caches : ∀ k, (x.caches k).entries = []

/-- A path leads to none of the files of caches. -/
def Uncached (x : Fleet ι κ) (path : String) : Prop :=
  ∀ k, ∀ e ∈ (x.caches k).entries, ¬x.host.files.LeadsTo path e.2.file

/-- Every owner has its files, and no two owners have one in common. What is in the files of the backends is left
open. -/
structure Kept (x : Fleet ι κ) : Prop where
  solvers : ∀ i, (x.solvers i).HasFile x.host
  caches : ∀ k, (x.caches k).Owns x.host
  apart : ∀ {o o' p p'}, o ≠ o' → x.Holds p o → x.Holds p' o' → x.host.files.placeOf p ≠ x.host.files.placeOf p'

/-- Every owner has its files, and no two owners have one in common. -/
structure Sound (x : Fleet ι κ) : Prop where
  solvers : ∀ i, (x.solvers i).Owns x.host
  caches : ∀ k, (x.caches k).Owns x.host
  apart : ∀ {o o' p p'}, o ≠ o' → x.Holds p o → x.Holds p' o' → x.host.files.placeOf p ≠ x.host.files.placeOf p'

/-- The programs of a fleet keep to themselves. -/
def KeepsToItself (x : Fleet ι κ) : Prop := x.host.launcher.KeepsToItself x.host.IsTemporary

/-- The programs of a fleet and their surroundings stay what they are. -/
structure Follows (x x' : Fleet ι κ) : Prop where
  same : x.host.SameSurroundings x'.host
  program : ∀ i, (x'.solvers i).program = (x.solvers i).program
  limit : ∀ i, (x'.solvers i).limit = (x.solvers i).limit

end Fleet

/-- A request that keeps away from the files that are owned. A solution may also be saved onto its own file. -/
def Request.Proper {ι κ : Type} (x : Fleet ι κ) : Request ι κ → Prop
  | .ask _ _ (.saveProblem path _) => x.Foreign path
  | .ask i _ (.saveSolution path _) =>
    x.Foreign path ∨ ∃ own ∈ (x.solvers i).solutionFile, x.host.files.samePlace own path = true
  | .outside change => ∀ o p, x.Holds p o → x.host.files.Untouched (change x.host.files) p
  | _ => True

/-- A request that keeps away from the files of caches. Problems and solutions may be saved to the solution file of any
backend. -/
def Request.Careful {ι κ : Type} (x : Fleet ι κ) : Request ι κ → Prop
  | .ask _ _ (.saveProblem path _) => x.Uncached path
  | .ask i _ (.saveSolution path _) =>
    x.Uncached path ∨ ∃ own ∈ (x.solvers i).solutionFile, x.host.files.samePlace own path = true
  | .outside change => ∀ o p, x.Holds p o → x.host.files.Untouched (change x.host.files) p
  | _ => True

namespace Fleet

section Owners

variable {ι κ : Type} {x x' x'' y : Fleet ι κ} {i : ι} {k : κ} {path : String} {e : Digest × KnownSolution}

lemma Fresh.sound (hx : x.Fresh) : x.Sound where
  solvers i := .inl (hx.solvers i)
  caches k := by
    have hcache : x.caches k = .new (x.caches k).capacity := by
      rw [Cache.new, ← hx.caches k]
    rw [hcache]
    exact Cache.owns_empty _ _
  apart {o o' p p'} _ hp := by
    rcases o with i | k
    · rw [Holds, (hx.solvers i).1] at hp
      cases hp
    · obtain ⟨e, he, -⟩ := hp
      rw [hx.caches k] at he
      cases he

lemma Sound.kept (hx : x.Sound) : x.Kept := ⟨fun i => (hx.solvers i).hasFile, hx.caches, hx.apart⟩

lemma Kept.file (hx : x.Kept) {o : ι ⊕ κ} (hp : x.Holds path o) : x.host.IsTemporary path ∧ x.host.files.IsFile path := by
  cases o with
  | inl i => exact hx.solvers i path hp
  | inr k =>
      obtain ⟨e, he, rfl⟩ := hp
      exact (hx.caches k).file e he

lemma Sound.file (hx : x.Sound) {o : ι ⊕ κ} (hp : x.Holds path o) :
    x.host.IsTemporary path ∧ x.host.files.IsFile path := hx.kept.file hp

lemma Kept.bench (hx : x.Kept) (i : ι) (k : κ) : (x.bench i k).HasFiles where
  backend := hx.solvers i
  cache := hx.caches k
  apart e he _ hfile := hx.apart (Sum.inl_ne_inr : (.inl i : ι ⊕ κ) ≠ .inr k) hfile ⟨e, he, rfl⟩

lemma Sound.bench (hx : x.Sound) (i : ι) (k : κ) : (x.bench i k).Owns :=
  ⟨hx.solvers i, hx.caches k, (hx.kept.bench i k).apart⟩

/-- Whatever a backend and a cache do, the others keep their files, and none of these is one of the two. -/
lemma Kept.others (hx : x.Kept) {t : Bench CommandSolver} (ht : (x.bench i k).Confined t) {o : ι ⊕ κ} (hi : o ≠ .inl i)
    (hk : o ≠ .inr k) (hp : x.Holds path o) : x.host.files.Untouched t.host.files path ∧ t.Aside path :=
  ht.others (hx.file hp).1 (hx.file hp).2
    ⟨fun _ hfile => hx.apart (o := .inl i) hi.symm hfile hp, fun e he => hx.apart (o := .inr k) hk.symm ⟨e, he, rfl⟩ hp⟩

/-- A careful user of sound fleets is a proper one. -/
lemma Request.Proper.careful {r : Request ι κ} (hr : r.Proper x) : r.Careful x := by
  have huncached : ∀ {path}, x.Foreign path → x.Uncached path := fun h k e he => h (.inr k) _ ⟨e, he, rfl⟩
  cases r with
  | clear k => trivial
  | outside change => exact hr
  | ask i k op =>
      cases op with
      | saveProblem path format => exact huncached hr
      | saveSolution path kind => exact hr.imp_left huncached
      | _ => trivial

/-! ### Owners that act -/

/-- Some owners of a fleet have acted, and the others have been left alone. Those that have acted have their files, at
places of their own. The file of an entry is left alone as long as the entry stays, and is gone once it does not. -/
structure Alters (x y : Fleet ι κ) (acting : ι ⊕ κ → Prop) : Prop where
  same : x.host.SameSurroundings y.host
  solvers : ∀ j, ¬acting (.inl j) → y.solvers j = x.solvers j
  caches : ∀ l, ¬acting (.inr l) → y.caches l = x.caches l
  others : ∀ {o p}, ¬acting o → x.Holds p o → x.host.files.Untouched y.host.files p
  file : ∀ j, acting (.inl j) → (y.solvers j).HasFile y.host
  owns : ∀ l, acting (.inr l) → (y.caches l).Owns y.host
  aside : ∀ {o o' p p'}, acting o → ¬acting o' → y.Holds p o → x.Holds p' o' →
    y.host.files.placeOf p ≠ y.host.files.placeOf p'
  apart : ∀ {o o' p p'}, acting o → acting o' → o ≠ o' → y.Holds p o → y.Holds p' o' →
    y.host.files.placeOf p ≠ y.host.files.placeOf p'
  entries : ∀ {l e}, acting (.inr l) → e ∈ (x.caches l).entries → e ∈ (y.caches l).entries →
    x.host.files.Untouched y.host.files e.2.file
  gone : ∀ {l e}, acting (.inr l) → e ∈ (x.caches l).entries → e ∉ (y.caches l).entries →
    y.host.files.holds e.2.file = false

section Acting

variable {acting : ι ⊕ κ → Prop}

lemma Alters.holds_iff (ha : x.Alters y acting) {o : ι ⊕ κ} (ho : ¬acting o) : y.Holds path o ↔ x.Holds path o := by
  cases o with
  | inl j => rw [Holds, Holds, ha.solvers j ho]
  | inr l => rw [Holds, Holds, ha.caches l ho]

/-- **Whoever acts, every owner has its files.** -/
lemma Alters.kept (ha : x.Alters y acting) (hx : x.Kept) : y.Kept := by
  refine ⟨fun j => ?_, fun l => ?_, fun {o o' p p'} hne hp hp' => ?_⟩
  · by_cases hj : acting (.inl j)
    · exact ha.file j hj
    · exact (hx.solvers j).of_stays ha.same (fun p hp => (ha.others (o := .inl j) hj hp).stays) (by rw [ha.solvers j hj])
  · by_cases hl : acting (.inr l)
    · exact ha.owns l hl
    · rw [ha.caches l hl]
      exact (hx.caches l).of_untouched ha.same fun e he => ha.others (o := .inr l) hl ⟨e, he, rfl⟩
  · by_cases ho : acting o <;> by_cases ho' : acting o'
    · exact ha.apart ho ho' hne hp hp'
    · exact ha.aside ho ho' hp ((ha.holds_iff ho').mp hp')
    · exact (ha.aside ho' ho hp' ((ha.holds_iff ho).mp hp)).symm
    · have hold := (ha.holds_iff ho).mp hp
      have hold' := (ha.holds_iff ho').mp hp'
      rw [(ha.others ho hold).placeOf (hx.file hold).2, (ha.others ho' hold').placeOf (hx.file hold').2]
      exact hx.apart hne hold hold'

/-- A fleet stays sound if the solutions of the backends that act still belong to their files. -/
lemma Alters.sound (ha : x.Alters y acting) (hx : x.Sound) (hsolvers : ∀ j, acting (.inl j) → (y.solvers j).Owns y.host) :
    y.Sound := by
  obtain ⟨-, hcaches, hapart⟩ := ha.kept hx.kept
  refine ⟨fun j => ?_, hcaches, hapart⟩
  by_cases hj : acting (.inl j)
  · exact hsolvers j hj
  · rw [ha.solvers j hj]
    exact (hx.solvers j).of_untouched ha.same (fun p hp => ha.others (o := .inl j) hj hp) rfl rfl rfl

/-- **The file of an entry that stays is left alone.** -/
lemma Alters.untouched_entry (ha : x.Alters y acting) (he : e ∈ (x.caches k).entries) (he' : e ∈ (y.caches k).entries) :
    x.host.files.Untouched y.host.files e.2.file := by
  by_cases hk : acting (.inr k)
  · exact ha.entries hk he he'
  · exact ha.others (o := .inr k) hk ⟨e, he, rfl⟩

/-- **The file of an entry that does not stay is gone.** -/
lemma Alters.not_holds_entry (ha : x.Alters y acting) (he : e ∈ (x.caches k).entries) (hleft : e ∉ (y.caches k).entries) :
    y.host.files.holds e.2.file = false := by
  by_cases hk : acting (.inr k)
  · exact ha.gone hk he hleft
  · exact absurd (ha.caches k hk ▸ he) hleft

end Acting

/-- What happens to the host alone may be the work of backends on their files. -/
lemma Kept.alters_host (hx : x.Kept) {h : Host} (hsame : x.host.SameSurroundings h)
    (hstays : ∀ o p, x.Holds p o → x.host.files.Stays h.files p)
    (huntouched : ∀ k p, x.Holds p (.inr k) → x.host.files.Untouched h.files p) :
    x.Alters { x with host := h } fun o => o.isLeft := by
  have hplace : ∀ {o p}, x.Holds p o → h.files.placeOf p = x.host.files.placeOf p := fun hp =>
    (hstays _ _ hp).placeOf (hx.file hp).2
  have hapart : ∀ {o o' p p'}, o ≠ o' → x.Holds p o → x.Holds p' o' → h.files.placeOf p ≠ h.files.placeOf p' := by
    intro o o' p p' hne hp hp'
    rw [hplace hp, hplace hp']
    exact hx.apart hne hp hp'
  constructor
  case same => exact hsame
  case solvers => exact fun j hj => rfl
  case caches => exact fun l hl => rfl
  case others =>
    rintro (j | l) p ho hp
    · exact absurd rfl ho
    · exact huntouched l p hp
  case file => exact fun j _ => (hx.solvers j).of_stays hsame (fun p hp => hstays (.inl j) p hp) rfl
  case owns => exact fun l hl => absurd hl (by simp)
  case aside =>
    intro o o' p p' ho ho' hp hp'
    refine hapart (fun heq => ho' ?_) hp hp'
    rw [← heq]
    exact ho
  case apart => exact fun _ _ hne hp hp' => hapart hne hp hp'
  case entries => exact fun hl => absurd hl (by simp)
  case gone => exact fun hl => absurd hl (by simp)

/-- A fleet stays sound as long as its files are left alone. -/
lemma Sound.of_untouched (hx : x.Sound) {h : Host} (hsame : x.host.SameSurroundings h)
    (huntouched : ∀ o p, x.Holds p o → x.host.files.Untouched h.files p) : Sound { x with host := h } :=
  (hx.kept.alters_host hsame (fun o p hp => (huntouched o p hp).stays) fun k p hp => huntouched (.inr k) p hp).sound hx
    fun j _ => (hx.solvers j).of_untouched hsame (fun p hp => huntouched (.inl j) p hp) rfl rfl rfl

lemma Follows.refl (x : Fleet ι κ) : x.Follows x := ⟨.refl _, fun _ => rfl, fun _ => rfl⟩

lemma Follows.trans (hx : x.Follows x') (hx' : x'.Follows x'') : x.Follows x'' where
  same := hx.same.trans hx'.same
  program i := (hx'.program i).trans (hx.program i)
  limit i := (hx'.limit i).trans (hx.limit i)

lemma Follows.keepsToItself (hx : x.Follows x') (hrun : x.KeepsToItself) : x'.KeepsToItself :=
  keepsToItself_of_same hx.same hrun

end Owners

/-! ### What happens to a cache -/

section Caches

variable {ι κ : Type} [DecidableEq κ] {x : Fleet ι κ} {k l : κ}

/-- The fleet once something has happened to a cache. -/
def withCache (x : Fleet ι κ) (k : κ) (c : Cache) (h : Host) : Fleet ι κ :=
  { x with caches := Function.update x.caches k c, host := h }

lemma withCache_caches_self {c : Cache} {h : Host} : (x.withCache k c h).caches k = c := Function.update_self ..

lemma withCache_caches_of_ne {c : Cache} {h : Host} (hl : l ≠ k) : (x.withCache k c h).caches l = x.caches l :=
  Function.update_of_ne hl ..

lemma mem_withCache {c : Cache} {h : Host} {e : Digest × KnownSolution}
    (he : e ∈ ((x.withCache l c h).caches k).entries) : e ∈ (x.caches k).entries ∨ k = l ∧ e ∈ c.entries := by
  by_cases hk : k = l
  · subst hk
    rw [withCache_caches_self] at he
    exact .inr ⟨rfl, he⟩
  · rw [withCache_caches_of_ne hk] at he
    exact .inl he

/-- **What happens to a cache leaves all others with their files**, as long as it keeps to the files of the cache and to
new ones. -/
lemma alters_withCache {c : Cache} {h : Host} (hsame : x.host.SameSurroundings h) (howns : c.Owns h)
    (hothers : ∀ o p, o ≠ .inr k → x.Holds p o → x.host.files.Untouched h.files p
      ∧ ∀ e ∈ c.entries, h.files.placeOf e.2.file ≠ h.files.placeOf p)
    (hentries : ∀ e ∈ (x.caches k).entries, e ∈ c.entries → x.host.files.Untouched h.files e.2.file)
    (hgone : ∀ e ∈ (x.caches k).entries, e ∉ c.entries → h.files.holds e.2.file = false) :
    x.Alters (x.withCache k c h) fun o => o = .inr k := by
  constructor
  case same => exact hsame
  case solvers => exact fun j hj => rfl
  case caches => exact fun l hl => withCache_caches_of_ne fun heq => hl (congrArg Sum.inr heq)
  case others => exact fun ho hp => (hothers _ _ ho hp).1
  case file => exact fun j hj => absurd hj (by simp)
  case owns =>
    rintro l hl
    obtain rfl := Sum.inr.inj hl
    rw [withCache_caches_self]
    exact howns
  case aside =>
    rintro o o' p p' rfl ho' ⟨e, he, rfl⟩ hp'
    rw [withCache_caches_self] at he
    exact (hothers o' p' ho' hp').2 e he
  case apart => exact fun ho ho' hne => absurd (ho.trans ho'.symm) hne
  case entries =>
    rintro l e hl he he'
    obtain rfl := Sum.inr.inj hl
    rw [withCache_caches_self] at he'
    exact hentries e he he'
  case gone =>
    rintro l e hl he hleft
    obtain rfl := Sum.inr.inj hl
    rw [withCache_caches_self] at hleft
    exact hgone e he hleft

/-- The files of a cache that is given up are gone, and those of all others are left alone. -/
lemma Kept.alters_dispose (hx : x.Kept) (k : κ) {c : Cache} (hempty : c.entries = []) :
    x.Alters (x.withCache k c ((x.caches k).dispose x.host).2) fun o => o = .inr k := by
  obtain ⟨hgone, huntouched⟩ := (hx.caches k).dispose
  refine alters_withCache (Cache.discardAll_same _ _) ?_ (fun o p ho hp => ⟨?_, ?_⟩) ?_ fun e he _ => hgone e he
  · have hnew : c = .new c.capacity := by rw [Cache.new, ← hempty]
    rw [hnew]
    exact Cache.owns_empty _ _
  · exact huntouched p (hx.file hp).2 fun e he => hx.apart (o := .inr k) ho.symm ⟨e, he, rfl⟩ hp
  · rw [hempty]
    exact fun e he => absurd he List.not_mem_nil
  · rw [hempty]
    exact fun e _ he => absurd he List.not_mem_nil

end Caches

/-! ### What happens to a fleet -/

section Steps

variable {ι κ : Type} [DecidableEq ι] [DecidableEq κ] {x : Fleet ι κ} {i j : ι} {k l : κ} {path : String}
  {t : Bench CommandSolver}

/-- The fleet once a backend and a cache have done something. -/
def seat (x : Fleet ι κ) (i : ι) (k : κ) (t : Bench CommandSolver) : Fleet ι κ :=
  ⟨Function.update x.solvers i t.backend, Function.update x.caches k t.cache, t.host⟩

/-- What becomes of a fleet, and the reply to the request. -/
def step (x : Fleet ι κ) : Request ι κ → Except Error (Option Status) × Fleet ι κ
  | .ask i k op =>
    let (reply, t) := op.perform (x.bench i k)
    (reply, x.seat i k t)
  | .clear k =>
    let (result, (c, h)) := Cache.clearOnHost (x.caches k, x.host)
    (result.map fun _ => none, { x with caches := Function.update x.caches k c, host := h })
  | .outside change => (.ok none, { x with host := { x.host with files := change x.host.files } })

/-- The fleet after some requests. -/
def after (x : Fleet ι κ) (requests : List (Request ι κ)) : Fleet ι κ := requests.foldl (fun x r => (x.step r).2) x

/-- Every request keeps away from the files that are owned when it comes. -/
def Proper (x : Fleet ι κ) (requests : List (Request ι κ)) : Prop :=
  ∀ before r later, requests = before ++ r :: later → r.Proper (x.after before)

lemma seat_solvers_self : (x.seat i k t).solvers i = t.backend := Function.update_self ..

lemma seat_solvers_of_ne (hj : j ≠ i) : (x.seat i k t).solvers j = x.solvers j := Function.update_of_ne hj ..

lemma seat_caches_self : (x.seat i k t).caches k = t.cache := Function.update_self ..

lemma seat_caches_of_ne (hl : l ≠ k) : (x.seat i k t).caches l = x.caches l := Function.update_of_ne hl ..

lemma seat_host (x : Fleet ι κ) (i : ι) (k : κ) (h : Host) :
    x.seat i k ⟨x.solvers i, x.caches k, h⟩ = { x with host := h } := by
  rw [seat, Function.update_eq_self, Function.update_eq_self]

lemma step_ask (x : Fleet ι κ) (i : ι) (k : κ) (op : Operation) :
    x.step (.ask i k op) = ((op.perform (x.bench i k)).1, x.seat i k (op.perform (x.bench i k)).2) := rfl

/-- An operation of a backend is that of the backend and the host alone. -/
lemma step_onBackend {α : Type} {op : Operation} {act : BackendM CommandSolver α} {f : α → Option Status}
    (hop : ∀ t, op.perform t = ((BenchM.onBackend act t).1.map f, (BenchM.onBackend act t).2))
    {result : Except Error α} {s : CommandSolver} {h : Host} (hact : act (x.solvers i, x.host) = (result, (s, h))) :
    x.step (.ask i k op) = (result.map f, x.seat i k ⟨s, x.caches k, h⟩) := by
  have hbackend : BenchM.onBackend act (x.bench i k) = (result, ⟨s, x.caches k, h⟩) := Backend.onBackend_eq_iff.mpr ⟨hact, rfl⟩
  rw [step_ask, hop, hbackend]

lemma step_solve {result : Except Error Status} {s : CommandSolver} {h : Host}
    (hsolve : CommandSolver.solve (x.solvers i, x.host) = (result, (s, h))) :
    x.step (.ask i k .solve) = (result.map some, x.seat i k ⟨s, x.caches k, h⟩) := by
  refine step_onBackend (fun t => ?_) hsolve
  exact Operation.told_apply _ t

lemma step_loadSolution {kind : SolutionKind} {result : Except Error Unit} {s : CommandSolver} {h : Host}
    (hload : CommandSolver.loadSolution path kind (x.solvers i, x.host) = (result, (s, h))) :
    x.step (.ask i k (.loadSolution path kind)) = (result.map fun _ => none, x.seat i k ⟨s, x.caches k, h⟩) := by
  refine step_onBackend (fun t => ?_) hload
  exact Operation.untold_apply _ t

lemma step_saveProblem (x : Fleet ι κ) (i : ι) (k : κ) (path : String) (format : ProblemFormat) :
    x.step (.ask i k (.saveProblem path format))
      = ((Backend.saveProblem (x.solvers i) path format x.host).1.map fun _ => none,
        { x with host := (Backend.saveProblem (x.solvers i) path format x.host).2 }) := by
  rw [step_ask, Operation.perform, Operation.untold_apply]
  exact congrArg (Prod.mk _) (seat_host x i k _)

lemma step_saveSolution (x : Fleet ι κ) (i : ι) (k : κ) (path : String) (kind : SolutionKind) :
    x.step (.ask i k (.saveSolution path kind))
      = ((Backend.saveSolution (x.solvers i) path kind x.host).1.map fun _ => none,
        { x with host := (Backend.saveSolution (x.solvers i) path kind x.host).2 }) := by
  rw [step_ask, Operation.perform, Operation.untold_apply]
  exact congrArg (Prod.mk _) (seat_host x i k _)

lemma step_registerSolution (x : Fleet ι κ) (i : ι) (k : κ) (path : String) (status : Status) :
    x.step (.ask i k (.registerSolution path status))
      = ((Bench.register path status (x.bench i k)).1.map fun _ => none,
        x.seat i k (Bench.register path status (x.bench i k)).2) := by
  rw [step_ask, Operation.perform, Operation.untold_apply]

lemma step_runAlone {format : ProblemFormat} {result : Except Error Status} {s : CommandSolver} {h : Host}
    (hrunAlone : Backend.runAlone path format (x.solvers i, x.host) = (result, (s, h))) :
    x.step (.ask i k (.runAlone path format)) = (result.map some, x.seat i k ⟨s, x.caches k, h⟩) := by
  refine step_onBackend (fun t => ?_) hrunAlone
  exact Operation.told_apply _ t

lemma step_runCached (x : Fleet ι κ) (i : ι) (k : κ) (path : String) (format : ProblemFormat) :
    x.step (.ask i k (.runCached path format))
      = ((Backend.runCached path format (x.bench i k)).1.map some,
        x.seat i k (Backend.runCached path format (x.bench i k)).2) := by
  rw [step_ask, Operation.perform, Operation.told_apply]

lemma after_concat (x : Fleet ι κ) (requests : List (Request ι κ)) (r : Request ι κ) :
    x.after (requests ++ [r]) = ((x.after requests).step r).2 := by
  rw [after, List.foldl_append]
  rfl

lemma Proper.of_append {requests later : List (Request ι κ)} (h : x.Proper (requests ++ later)) : x.Proper requests := by
  rintro before r rest rfl
  exact h before r (rest ++ later) (by simp)

lemma Proper.last {requests : List (Request ι κ)} {r : Request ι κ} (h : x.Proper (requests ++ [r])) :
    r.Proper (x.after requests) := h requests r [] rfl

lemma proper_nil (x : Fleet ι κ) : x.Proper [] := by
  intro before r later h
  exact absurd h (by simp)

lemma Proper.concat {requests : List (Request ι κ)} {r : Request ι κ} (h : x.Proper requests)
    (hr : r.Proper (x.after requests)) : x.Proper (requests ++ [r]) := by
  intro before r' later heq
  rcases List.eq_nil_or_concat later with rfl | ⟨later, last, rfl⟩
  · obtain ⟨rfl, hlast⟩ := List.append_inj' heq rfl
    obtain rfl := List.singleton_inj.mp hlast
    exact hr
  · have hsplit : requests ++ [r] = (before ++ r' :: later) ++ [last] := by
      rw [heq]
      simp
    exact h before r' later (List.append_inj' hsplit rfl).1

/-! ### A backend and a cache among others -/

lemma holds_seat_backend : (x.seat i k t).Holds path (.inl i) ↔ path ∈ t.backend.solutionFile := by
  rw [Holds, seat_solvers_self]

lemma holds_seat_cache : (x.seat i k t).Holds path (.inr k) ↔ ∃ e ∈ t.cache.entries, e.2.file = path := by
  rw [Holds, seat_caches_self]

/-- **What a backend and a cache do leaves all others with their files.** -/
lemma Kept.alters_seat (hx : x.Kept) (ht : (x.bench i k).Confined t) :
    x.Alters (x.seat i k t) fun o => o = .inl i ∨ o = .inr k := by
  constructor
  case same => exact ht.same
  case solvers => exact fun j hj => seat_solvers_of_ne fun heq => hj (.inl (congrArg Sum.inl heq))
  case caches => exact fun l hl => seat_caches_of_ne fun heq => hl (.inr (congrArg Sum.inr heq))
  case others => exact fun ho hp => (hx.others ht (not_or.mp ho).1 (not_or.mp ho).2 hp).1
  case file =>
    rintro j (hj | hj)
    · obtain rfl := Sum.inl.inj hj
      rw [seat_solvers_self]
      exact ht.files.backend
    · cases hj
  case owns =>
    rintro l (hl | hl)
    · cases hl
    · obtain rfl := Sum.inr.inj hl
      rw [seat_caches_self]
      exact ht.files.cache
  case aside =>
    intro o o' p p' ho ho' hp hp'
    have haside := (hx.others ht (not_or.mp ho').1 (not_or.mp ho').2 hp').2
    rcases ho with rfl | rfl
    · exact haside.backend p (holds_seat_backend.mp hp)
    · obtain ⟨e, he, rfl⟩ := holds_seat_cache.mp hp
      exact haside.cache e he
  case apart =>
    intro o o' p p' ho ho' hne hp hp'
    rcases ho with rfl | rfl <;> rcases ho' with rfl | rfl
    · exact absurd rfl hne
    · obtain ⟨e, he, rfl⟩ := holds_seat_cache.mp hp'
      exact ht.files.apart e he p (holds_seat_backend.mp hp)
    · obtain ⟨e, he, rfl⟩ := holds_seat_cache.mp hp
      exact (ht.files.apart e he p' (holds_seat_backend.mp hp')).symm
    · exact absurd rfl hne
  case entries =>
    rintro l e (hl | hl) he he'
    · cases hl
    · obtain rfl := Sum.inr.inj hl
      rw [seat_caches_self] at he'
      exact ht.entries e he he'
  case gone =>
    rintro l e (hl | hl) he hleft
    · cases hl
    · obtain rfl := Sum.inr.inj hl
      rw [seat_caches_self] at hleft
      exact ht.gone e he hleft

lemma Sound.seat (hx : x.Sound) (ht : (x.bench i k).Confined t) : (x.seat i k t).Sound := by
  refine (hx.kept.alters_seat ht).sound hx fun j hj => ?_
  rcases hj with hj | hj
  · obtain rfl := Sum.inl.inj hj
    rw [seat_solvers_self]
    exact ht.solution (hx.solvers j)
  · cases hj

lemma Follows.seat (ht : (x.bench i k).Confined t) : x.Follows (x.seat i k t) := by
  refine ⟨ht.same, fun j => ?_, fun j => ?_⟩
  · by_cases hj : j = i
    · subst hj
      rw [seat_solvers_self]
      exact ht.program
    · rw [seat_solvers_of_ne hj]
  · by_cases hj : j = i
    · subst hj
      rw [seat_solvers_self]
      exact ht.limit
    · rw [seat_solvers_of_ne hj]

lemma Follows.clear (x : Fleet ι κ) (k : κ) : x.Follows (x.step (.clear k)).2 :=
  ⟨Cache.discardAll_same _ _, fun _ => rfl, fun _ => rfl⟩

lemma step_clear (x : Fleet ι κ) (k : κ) :
    x.step (.clear k) = (.ok none, x.withCache k (x.caches k).clear ((x.caches k).dispose x.host).2) := rfl

lemma Kept.alters_clear (hx : x.Kept) (k : κ) : x.Alters (x.step (.clear k)).2 fun o => o = .inr k := by
  rw [step_clear]
  exact hx.alters_dispose k rfl

/-! ### A fleet keeps its files -/

/-- **Careful requests leave every owner with its files.** -/
lemma Kept.alters_step (hx : x.Kept) (hrun : x.KeepsToItself) {r : Request ι κ} (hr : r.Careful x) :
    ∃ acting, x.Alters (x.step r).2 acting := by
  cases r with
  | clear k => exact ⟨_, hx.alters_clear k⟩
  | outside change => exact ⟨_, hx.alters_host ⟨rfl, rfl⟩ (fun o p hp => (hr o p hp).stays) fun k => hr (.inr k)⟩
  | ask i k op =>
      by_cases hsaves : op.Saves
      · cases op with
        | saveProblem path format =>
            obtain ⟨hsame, hstays, huntouched⟩ := (x.solvers i).saveProblem_untouched path format x.host
            rw [step_saveProblem]
            refine ⟨_, hx.alters_host hsame (fun _ p _ => hstays p) fun l p hp => huntouched p ?_⟩
            obtain ⟨e, he, rfl⟩ := hp
            exact hr l e he
        | saveSolution path kind =>
            obtain ⟨hsame, hstays, huntouched⟩ := (x.solvers i).saveSolution_untouched path kind x.host
            rw [step_saveSolution]
            refine ⟨_, hx.alters_host hsame (fun _ p _ => hstays p) fun l p hp => huntouched p (hr.imp_left fun h => ?_)⟩
            obtain ⟨e, he, rfl⟩ := hp
            exact h l e he
        | _ => exact absurd hsaves id
      · exact ⟨_, hx.alters_seat (Bench.confines_perform hsaves (x.bench i k) hrun (hx.bench i k))⟩

/-- **A fleet stays sound, whatever it is asked for.** -/
lemma Sound.step (hx : x.Sound) (hrun : x.KeepsToItself) {r : Request ι κ} (hr : r.Proper x) :
    (x.step r).2.Sound ∧ x.Follows (x.step r).2 := by
  cases r with
  | clear k => exact ⟨(hx.kept.alters_clear k).sound hx fun j hj => absurd hj (by simp), Follows.clear x k⟩
  | outside change => exact ⟨hx.of_untouched ⟨rfl, rfl⟩ hr, ⟨rfl, rfl⟩, fun _ => rfl, fun _ => rfl⟩
  | ask i k op =>
      by_cases hsaves : op.Saves
      · cases op with
        | saveProblem path format =>
            obtain ⟨hsame, -, huntouched⟩ := (x.solvers i).saveProblem_untouched path format x.host
            rw [step_saveProblem]
            exact ⟨hx.of_untouched hsame fun o p hp => huntouched p (hr o p hp), hsame, fun _ => rfl, fun _ => rfl⟩
        | saveSolution path kind =>
            obtain ⟨hsame, -, huntouched⟩ := (x.solvers i).saveSolution_untouched path kind x.host
            rw [step_saveSolution]
            exact ⟨hx.of_untouched hsame fun o p hp => huntouched p (hr.imp_left fun h => h o p hp), hsame,
              fun _ => rfl, fun _ => rfl⟩
        | _ => exact absurd hsaves id
      · have hconfined := Bench.confines_perform hsaves (x.bench i k) hrun (hx.kept.bench i k)
        rw [step_ask]
        exact ⟨hx.seat hconfined, .seat hconfined⟩

/-- **A fleet stays sound after any number of requests.** -/
lemma Sound.after (hx : x.Sound) (hrun : x.KeepsToItself) {requests : List (Request ι κ)} (hproper : x.Proper requests) :
    (x.after requests).Sound ∧ x.Follows (x.after requests) := by
  induction requests using List.reverseRecOn with
  | nil => exact ⟨hx, .refl x⟩
  | append_singleton requests r ih =>
      obtain ⟨hsound, hfollows⟩ := ih hproper.of_append
      obtain ⟨hsound', hfollows'⟩ := hsound.step (hfollows.keepsToItself hrun) hproper.last
      rw [after_concat]
      exact ⟨hsound', hfollows.trans hfollows'⟩

/-! ### Entries -/

/-- **The file of an entry that stays is left alone.** -/
lemma Sound.untouched_entry (hx : x.Sound) (hrun : x.KeepsToItself) {r : Request ι κ} (hr : r.Proper x)
    {e : Digest × KnownSolution} (he : e ∈ (x.caches k).entries) (he' : e ∈ ((x.step r).2.caches k).entries) :
    x.host.files.Untouched (x.step r).2.host.files e.2.file := by
  obtain ⟨acting, halters⟩ := hx.kept.alters_step hrun (Request.Proper.careful hr)
  exact halters.untouched_entry he he'

/-- **Only an operation that registers a solution gives a cache another entry.** -/
lemma exists_of_new_entry {r : Request ι κ} {e : Digest × KnownSolution} (he : e ∉ (x.caches k).entries)
    (he' : e ∈ ((x.step r).2.caches k).entries) : ∃ i op, op.Registers ∧ r = .ask i k op := by
  cases r with
  | outside change => exact absurd he' he
  | clear l =>
      rcases mem_withCache he' with hold | ⟨-, hnone⟩
      · exact absurd hold he
      · cases hnone
  | ask i l op =>
      by_cases hk : k = l
      · subst hk
        refine ⟨i, op, ?_, rfl⟩
        by_contra hregisters
        rw [step_ask, seat_caches_self, Bench.cache_perform hregisters] at he'
        exact he he'
      · rw [step_ask, seat_caches_of_ne hk] at he'
        exact absurd he' he

end Steps

/-- Two backends without a solution, a cache with room for one entry, and the problem file `/p.lp`. -/
def duo (programs : Bool → Program) (launcher : Launcher) : Fleet Bool Unit where
  solvers i := .new (programs i)
  caches _ := .new 1
  host :=
    { files :=
        { entries := [(["p.lp"], .file 0), (["tmp"], .directory)]
          numbered := #[⟨[0x61], false⟩] }
      tempDirectory := "/tmp"
      nextTemp := 0
      tempNames := []
      journal := []
      launcher }

lemma fresh_duo (programs : Bool → Program) (launcher : Launcher) : (duo programs launcher).Fresh :=
  ⟨fun _ => ⟨rfl, rfl⟩, fun _ => rfl⟩

end Fleet

end LinearProgram
