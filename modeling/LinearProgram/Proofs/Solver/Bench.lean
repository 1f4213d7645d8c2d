import LinearProgram.Proofs.Solver.Ownership

/-!
A backend and a cache on one host.

A backend that starts a program and a cache own files, which are at different places. Whatever the two are asked for,
except for a solution or a problem to be saved somewhere, they touch their own files only, and new ones.

* `Bench.HasFiles`, `Bench.Owns`, `Bench.Aside`: what a backend and a cache own, and what they do not own.
* `Bench.Confined`: what becomes of them and of the files of others.
* `Bench.Confines`, `Bench.Keeps`: the computations that only do this, and those that also leave the cache alone.
* `Bench.confines_runCached`: **a run with a cache touches only files of its backend and its cache.**
-/

namespace LinearProgram

open CommandSolver (keepsToItself_of_same)

/-! ### A backend with a cache -/

namespace Bench

variable {t t' t'' : Bench CommandSolver} {α β : Type}

/-- A backend and a cache own their files, which are at different places. -/
structure Owns (t : Bench CommandSolver) : Prop where
  backend : t.backend.Owns t.host
  cache : t.cache.Owns t.host
  apart : ∀ e ∈ t.cache.entries, t.backend.Aside t.host e.2.file

/-- A backend and a cache have their files, which are at different places. -/
structure HasFiles (t : Bench CommandSolver) : Prop where
  backend : t.backend.HasFile t.host
  cache : t.cache.Owns t.host
  apart : ∀ e ∈ t.cache.entries, t.backend.Aside t.host e.2.file

lemma Owns.hasFiles (howns : t.Owns) : t.HasFiles := ⟨howns.backend.hasFile, howns.cache, howns.apart⟩

/-- A file is owned neither by the backend nor by the cache. -/
structure Aside (t : Bench CommandSolver) (path : String) : Prop where
  backend : t.backend.Aside t.host path
  cache : ∀ e ∈ t.cache.entries, t.host.files.placeOf e.2.file ≠ t.host.files.placeOf path

/-- What becomes of a backend, a cache and a host. Both still have their files, and the solution still belongs to its
file if it did. The file of an entry is left alone as long as the entry stays, and is gone once it does not; an entry
that is new holds the report of the backend. The files of others are left alone. -/
structure Confined (t t' : Bench CommandSolver) : Prop where
  same : t.host.SameSurroundings t'.host
  program : t'.backend.program = t.backend.program
  limit : t'.backend.limit = t.backend.limit
  files : t'.HasFiles
  solution : t.backend.Owns t.host → t'.backend.Owns t'.host
  entries : ∀ e ∈ t.cache.entries, e ∈ t'.cache.entries → t.host.files.Untouched t'.host.files e.2.file
  gone : ∀ e ∈ t.cache.entries, e ∉ t'.cache.entries → t'.host.files.holds e.2.file = false
  new : ∀ e ∈ t'.cache.entries, e ∉ t.cache.entries →
    ∃ own ∈ t'.backend.solutionFile, t'.host.files.read e.2.file = t'.host.files.read own
  others : ∀ {p}, t.host.IsTemporary p → t.host.files.IsFile p → t.Aside p →
    t.host.files.Untouched t'.host.files p ∧ t'.Aside p

/-- What becomes of a backend and a cache if the solution belongs to its file. -/
structure Advance (t t' : Bench CommandSolver) : Prop extends Confined t t' where
  owns : t'.Owns

lemma Confined.advance (ht : t.Confined t') (howns : t.Owns) : t.Advance t' :=
  ⟨ht, ht.solution howns.backend, ht.files.cache, ht.files.apart⟩

/-- What the backend does alone. -/
lemma Confined.of_backend (ht : t.HasFiles) (hcache : t'.cache = t.cache)
    (ha : t.backend.Confined t.host t'.backend t'.host) : t.Confined t' := by
  have hentries : ∀ e ∈ t.cache.entries,
      t.host.files.Untouched t'.host.files e.2.file ∧ t'.backend.Aside t'.host e.2.file := fun e he =>
    ha.others (ht.cache.file e he).1 (ht.cache.file e he).2 (ht.apart e he)
  constructor
  case same => exact ha.same
  case program => exact ha.program
  case limit => exact ha.limit
  case solution => exact ha.owns
  case files =>
    refine ⟨ha.file, ?_, fun e he => ?_⟩
    · rw [hcache]
      exact ht.cache.of_untouched ha.same fun e he => (hentries e he).1
    · rw [hcache] at he
      exact (hentries e he).2
  case entries => exact fun e he _ => (hentries e he).1
  case gone => exact fun e he hleft => absurd (hcache ▸ he) hleft
  case new => exact fun e he hnew => absurd (hcache ▸ he) hnew
  case others =>
    intro p hp hstands haside
    obtain ⟨huntouched, haside'⟩ := ha.others hp hstands haside.backend
    refine ⟨huntouched, haside', fun e he => ?_⟩
    rw [hcache] at he
    rw [(hentries e he).1.placeOf (ht.cache.file e he).2, huntouched.placeOf hstands]
    exact haside.cache e he

lemma Confined.trans (ht : t.Confined t') (hcache : t'.cache = t.cache) (ht' : t'.Confined t'') : t.Confined t'' where
  same := ht.same.trans ht'.same
  program := ht'.program.trans ht.program
  limit := ht'.limit.trans ht.limit
  files := ht'.files
  solution h := ht'.solution (ht.solution h)
  entries e he he' := by
    have hmem : e ∈ t'.cache.entries := by rwa [hcache]
    exact (ht.entries e he hmem).trans (ht'.entries e hmem he')
  gone e he := ht'.gone e (hcache ▸ he)
  new e he hnew := ht'.new e he (hcache ▸ hnew)
  others := by
    intro p hp hstands haside
    obtain ⟨huntouched, haside'⟩ := ht.others hp hstands haside
    obtain ⟨huntouched', haside''⟩ := ht'.others (ht.same.isTemporary_iff.mpr hp) (huntouched.isFile hstands) haside'
    exact ⟨huntouched.trans huntouched', haside''⟩

/-- Registering a solution leaves the file of the backend alone, and the new entry has its file elsewhere. -/
lemma untouched_of_registers (ht : t.HasFiles) {entry : Digest × KnownSolution} {bytes : List UInt8} {h' : Host}
    (hr : CommandSolver.Registers t.host t.cache entry bytes h') {file : String} (hfile : file ∈ t.backend.solutionFile) :
    t.host.files.Untouched h'.files file ∧ h'.files.placeOf entry.2.file ≠ h'.files.placeOf file := by
  obtain ⟨htemporary, hstands⟩ := ht.backend file hfile
  exact hr.others htemporary hstands fun e he => (ht.apart e he file hfile).symm

/-- What becomes of a backend and a cache when a solution has been registered. -/
lemma Confined.of_registers (ht : t.HasFiles) {entry : Digest × KnownSolution} {own : String} {bytes : List UInt8}
    {h' : Host} (hown : own ∈ t.backend.solutionFile) (hread : t.host.files.read own = .ok bytes)
    (hr : CommandSolver.Registers t.host t.cache entry bytes h') :
    t.Confined ⟨t.backend, t.cache.insert entry.1 entry.2, h'⟩ := by
  constructor
  case same => exact hr.same
  case program => rfl
  case limit => rfl
  case solution =>
    exact fun howns => howns.of_untouched hr.same (fun file hfile => (untouched_of_registers ht hr hfile).1) rfl rfl rfl
  case files =>
    refine ⟨ht.backend.of_stays hr.same (fun file hfile => (untouched_of_registers ht hr hfile).1.stays) rfl, hr.owns,
      fun e he file hfile => ?_⟩
    obtain ⟨huntouched, hplace⟩ := untouched_of_registers ht hr hfile
    rcases Cache.mem_entries_insert he with rfl | ⟨hold, -, -⟩
    · exact hplace.symm
    · change h'.files.placeOf file ≠ h'.files.placeOf e.2.file
      rw [huntouched.placeOf (ht.backend file hfile).2, (hr.entries e hold he).placeOf (ht.cache.file e hold).2]
      exact ht.apart e hold file hfile
  case entries => exact hr.entries
  case gone => exact hr.gone
  case new =>
    intro e he hnew
    rcases Cache.mem_entries_insert he with rfl | ⟨hold, -, -⟩
    · have hstill := (untouched_of_registers ht hr hown).1.read (ht.backend own hown).2
      exact ⟨own, hown, hr.read.trans (hstill.trans hread).symm⟩
    · exact absurd hold hnew
  case others =>
    intro p hp hstands haside
    obtain ⟨huntouched, hplace⟩ := hr.others hp hstands haside.cache
    refine ⟨huntouched, fun file hfile => ?_, fun e he => ?_⟩
    · change h'.files.placeOf file ≠ h'.files.placeOf _
      rw [(untouched_of_registers ht hr hfile).1.placeOf (ht.backend file hfile).2, huntouched.placeOf hstands]
      exact haside.backend file hfile
    · rcases Cache.mem_entries_insert he with rfl | ⟨hold, -, -⟩
      · exact hplace
      · change h'.files.placeOf e.2.file ≠ h'.files.placeOf _
        rw [(hr.entries e hold he).placeOf (ht.cache.file e hold).2, huntouched.placeOf hstands]
        exact haside.cache e hold

/-! ### Computations of a backend with a cache -/

/-- A computation that does to a backend, a cache and the files of others only what is allowed. -/
def Confines (act : BenchM CommandSolver α) : Prop :=
  ∀ t : Bench CommandSolver, t.host.launcher.KeepsToItself t.host.IsTemporary → t.HasFiles → t.Confined (act t).2

/-- A computation that also leaves the cache alone. -/
def Keeps (act : BenchM CommandSolver α) : Prop := Confines act ∧ ∀ t, (act t).2.cache = t.cache

lemma Keeps.bind_confines {act : BenchM CommandSolver α} {f : α → BenchM CommandSolver β} (hact : Keeps act)
    (hf : ∀ a, Confines (f a)) : Confines (act >>= f) := by
  intro t hrun ht
  have hfirst := hact.1 t hrun ht
  have hcache := hact.2 t
  rw [bind_apply]
  cases hresult : act t with
  | mk result t' =>
      rw [hresult] at hfirst hcache
      cases result with
      | error e => exact hfirst
      | ok a => exact hfirst.trans hcache (hf a t' (keepsToItself_of_same hfirst.same hrun) hfirst.files)

lemma Keeps.bind {act : BenchM CommandSolver α} {f : α → BenchM CommandSolver β} (hact : Keeps act)
    (hf : ∀ a, Keeps (f a)) : Keeps (act >>= f) := by
  refine ⟨hact.bind_confines fun a => (hf a).1, fun t => ?_⟩
  have hcache := hact.2 t
  rw [bind_apply]
  cases hresult : act t with
  | mk result t' =>
      rw [hresult] at hcache
      cases result with
      | error e => exact hcache
      | ok a => exact ((hf a).2 t').trans hcache

/-- What a computation gives back does not matter. -/
lemma Confines.map {act : BenchM CommandSolver α} (hact : Confines act) (f : α → β) :
    Confines (act >>= fun a => pure (f a)) := by
  intro t hrun ht
  have hfirst := hact t hrun ht
  rw [bind_apply]
  cases hresult : act t with
  | mk result t' =>
      rw [hresult] at hfirst
      cases result <;> exact hfirst

lemma keeps_onBackend {act : BackendM CommandSolver α} (hact : CommandSolver.Confines act) :
    Keeps (BenchM.onBackend act) :=
  ⟨fun t hrun ht => .of_backend ht rfl (hact t.backend t.host hrun ht.backend), fun _ => rfl⟩

lemma keeps_pure (a : α) : Keeps (pure a) :=
  ⟨fun _ _ ht => .of_backend ht rfl (.of_spares ht.backend (.refl _) rfl rfl rfl rfl), fun _ => rfl⟩

lemma keeps_get : Keeps get :=
  ⟨fun _ _ ht => .of_backend ht rfl (.of_spares ht.backend (.refl _) rfl rfl rfl rfl), fun _ => rfl⟩

lemma keeps_note (entries : List Entry) : Keeps (BenchM.onBackend (BackendM.onHost (Host.note entries))) :=
  keeps_onBackend (CommandSolver.confines_onHost fun _ => .of_files ⟨rfl, rfl⟩ rfl)

lemma keeps_reuse (path : String) : Keeps (Backend.reuse path) := by
  have hload : ∀ c, Keeps (BenchM.onBackend (Backend.loadKnownSolution path c)) := fun c =>
    keeps_onBackend (CommandSolver.confines_loadKnownSolution path c)
  refine ⟨fun t hrun ht => ?_, fun t => ?_⟩
  · have hfirst := (hload t.cache).1 t hrun ht
    have hcache := (hload t.cache).2 t
    cases hresult : BenchM.onBackend (Backend.loadKnownSolution path t.cache) t with
    | mk result u =>
        rw [hresult] at hfirst hcache
        cases result with
        | ok status =>
            rw [Backend.reuse_of_loaded hresult]
            exact hfirst
        | error e =>
            rw [Backend.reuse_of_refused hresult]
            exact hfirst.trans hcache ((keeps_note _).1 u (keepsToItself_of_same hfirst.same hrun) hfirst.files)
  · have hcache := (hload t.cache).2 t
    cases hresult : BenchM.onBackend (Backend.loadKnownSolution path t.cache) t with
    | mk result u =>
        rw [hresult] at hcache
        cases result with
        | ok status =>
            rw [Backend.reuse_of_loaded hresult]
            exact hcache
        | error e =>
            rw [Backend.reuse_of_refused hresult]
            exact hcache

lemma keeps_answer (path : String) (isKnown : Bool) : Keeps (Backend.answer path isKnown) := by
  cases isKnown with
  | false => exact keeps_pure _
  | true => exact keeps_reuse path

/-- The current solution of the backend is registered. -/
def register (path : String) (status : Status) : BenchM CommandSolver Unit := do
  BenchM.onCache (Backend.registerSolution (← get).backend path status)

/-- **Registering a solution leaves the backend as it is, and its file alone.** -/
lemma register_cases (ht : t.HasFiles) (path : String) (status : Status) :
    t.Confined (register path status t).2 ∧ (register path status t).2.backend = t.backend
      ∧ ∀ file ∈ t.backend.solutionFile, t.host.files.Untouched (register path status t).2.host.files file := by
  rw [register, bind_apply_ok _ (get_apply t)]
  rcases CommandSolver.registerSolution_cases ht.backend ht.cache path status with
    ⟨e, h', hregister, hspares, -⟩ | ⟨own, bytes, file, h₁, content, h', hown, hread, -, -, hregister, hr⟩
  · have hresult : BenchM.onCache (Backend.registerSolution t.backend path status) t
        = (.error e, ⟨t.backend, t.cache, h'⟩) := Backend.onCache_eq_iff.mpr ⟨hregister, rfl⟩
    rw [hresult]
    exact ⟨.of_backend ht rfl (.of_spares ht.backend hspares rfl rfl rfl rfl), rfl,
      fun file hfile => hspares.untouched (ht.backend file hfile).1⟩
  · have hresult : BenchM.onCache (Backend.registerSolution t.backend path status) t
        = (.ok ⟨⟩, ⟨t.backend, t.cache.insert (.ofBytes content) ⟨file, status, .basic⟩, h'⟩) :=
      Backend.onCache_eq_iff.mpr ⟨hregister, rfl⟩
    rw [hresult]
    exact ⟨.of_registers ht hown hread hr, rfl, fun file hfile => (untouched_of_registers ht hr hfile).1⟩

lemma confines_register (path : String) (status : Status) : Confines (register path status) :=
  fun _ _ ht => (register_cases ht path status).1

lemma confines_solveAndRegister (path : String) : Confines (Backend.solveAndRegister path) := by
  have hparts : (Backend.solveAndRegister path : BenchM CommandSolver Status)
      = BenchM.onBackend CommandSolver.solve >>= fun status => register path status >>= fun _ => pure status := by
    simp only [register, bind_assoc]
    rfl
  rw [hparts]
  exact (keeps_onBackend CommandSolver.confines_solve).bind_confines fun status =>
    (confines_register path status).map fun _ => status

lemma confines_concluded (path : String) (status : Status) : Confines (Backend.concluded path status) := by
  rw [Backend.concluded]
  split_ifs
  · exact keeps_get.bind_confines fun _ => (keeps_note _).1.map fun _ => status
  · exact confines_solveAndRegister path

/-- **A run with a cache touches only files of its backend and its cache**, and new ones. -/
lemma confines_runCached (path : String) (format : ProblemFormat) : Confines (Backend.runCached path format) := by
  intro t hrun ht
  rw [Backend.runCached_apply]
  exact (keeps_onBackend (CommandSolver.confines_loadProblem path format t.cache)).bind_confines (fun isKnown =>
    (keeps_answer path isKnown).bind_confines (confines_concluded path)) t hrun ht

end Bench

end LinearProgram
