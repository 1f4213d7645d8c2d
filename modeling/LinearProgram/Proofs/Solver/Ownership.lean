import LinearProgram.Proofs.Cache.Files
import LinearProgram.Proofs.Solver.Process

/-!
What backends and caches own.

A backend that starts a program owns the file of its solution, and a cache owns the files of its entries. All of them
are temporary files, at places of their own. Whatever a backend and a cache do, they touch only files that one of the
two owns, and new ones; so they stay aside from everything else that stood aside before.

* `CommandSolver.Owns`: **a backend has no solution, or its file holds the report that its solution is read from.**
* `CommandSolver.HasFile`: the file of a backend stands, whatever has become of its content.
* `CommandSolver.Confined`: what becomes of a backend and of the files of others.
* `CommandSolver.Confines`: the computations that only do this, with `pure`, `bind` and the operations of a backend.
* `Cache.Owns`: a cache whose entries have files of their own.
* `CommandSolver.registerSolution_cases`: the current solution becomes an entry, or nothing has changed.
-/

namespace LinearProgram

namespace Host

lemma discardAny_untouched {file? : Option String} {path : String} {h : Host}
    (hclear : ∀ file ∈ file?, h.files.Clear file path) :
    h.files.Untouched (discardAny file? h).2.files path := by
  cases file? with
  | none => exact Files.Untouched.refl _ _
  | some file => exact discard_untouched (hclear file rfl)

/-- Two temporary files that are left alone stay at different places. -/
lemma Spares.aside {h h' : Host} {path other : String} (hh : h.Spares h') (hpath : h.IsTemporary path)
    (hfile : h.files.IsFile path) (hother : h.IsTemporary other) (hfile' : h.files.IsFile other)
    (hne : h.files.placeOf path ≠ h.files.placeOf other) : h'.files.placeOf path ≠ h'.files.placeOf other := by
  rwa [(hh.untouched hpath).placeOf hfile, (hh.untouched hother).placeOf hfile']

end Host

namespace CommandSolver

variable {s s' s'' : CommandSolver} {h h' h'' : Host} {bytes : List UInt8} {path : String} {kind : SolutionKind}
  {α β : Type}

/-! ### Backends -/

/-- Solution and solution file belong together: there is neither of them, or the file is a temporary file from which
the program reads the solution. -/
def Owns (s : CommandSolver) (h : Host) : Prop :=
  (s.solutionFile = none ∧ s.solution = .none)
    ∨ ∃ file bytes, s.solutionFile = some file ∧ h.IsTemporary file ∧ h.files.IsFile file
        ∧ h.files.read file = .ok bytes ∧ (s.program.readReport bytes).value = .ok s.solution

/-- The solution file of a backend, if there is one, is a temporary file that stands. Its content is left open, since
others may save their solutions there. -/
def HasFile (s : CommandSolver) (h : Host) : Prop :=
  ∀ file ∈ s.solutionFile, h.IsTemporary file ∧ h.files.IsFile file

/-- The solution file of a backend is at another place than a file. -/
def Aside (s : CommandSolver) (h : Host) (path : String) : Prop :=
  ∀ file ∈ s.solutionFile, h.files.placeOf file ≠ h.files.placeOf path

/-- What becomes of a backend and a host. The backend still has its file, and still owns its solution if it did; every
other temporary file is left alone and stays aside. -/
structure Confined (s : CommandSolver) (h : Host) (s' : CommandSolver) (h' : Host) : Prop where
  same : h.SameSurroundings h'
  program : s'.program = s.program
  limit : s'.limit = s.limit
  file : s'.HasFile h'
  owns : s.Owns h → s'.Owns h'
  others : ∀ {p}, h.IsTemporary p → h.files.IsFile p → s.Aside h p → h.files.Untouched h'.files p ∧ s'.Aside h' p

lemma Owns.file (howns : s.Owns h) {file : String} (hfile : s.solutionFile = some file) :
    h.IsTemporary file ∧ h.files.IsFile file := by
  rcases howns with ⟨hnone, -⟩ | ⟨file', _, hsome, htemporary, hstands, -⟩
  · rw [hnone] at hfile
    cases hfile
  · obtain rfl := Option.some.inj (hsome.symm.trans hfile)
    exact ⟨htemporary, hstands⟩

lemma Owns.hasFile (howns : s.Owns h) : s.HasFile h := fun _ hfile => howns.file hfile

/-- A backend keeps its file as long as the file stays where it is. -/
lemma HasFile.of_stays (hs : s.HasFile h) (hsame : h.SameSurroundings h')
    (hstays : ∀ file ∈ s.solutionFile, h.files.Stays h'.files file) (hfile : s'.solutionFile = s.solutionFile) :
    s'.HasFile h' := by
  intro file hmem
  rw [hfile] at hmem
  obtain ⟨htemporary, hstands⟩ := hs file hmem
  exact ⟨hsame.isTemporary_iff.mpr htemporary, (hstays file hmem).isFile hstands⟩

/-- The program reads the solution from the file. -/
lemma Owns.value (howns : s.Owns h) {file : String} (hfile : s.solutionFile = some file)
    (hread : h.files.read file = .ok bytes) : (s.program.readReport bytes).value = .ok s.solution := by
  rcases howns with ⟨hnone, -⟩ | ⟨file', bytes', hsome, -, -, hread', hvalue⟩
  · rw [hnone] at hfile
    cases hfile
  · obtain rfl := Option.some.inj (hsome.symm.trans hfile)
    obtain rfl := Except.ok.inj (hread'.symm.trans hread)
    exact hvalue

/-- A backend keeps its solution as long as the file is left alone. -/
lemma Owns.of_untouched (howns : s.Owns h) (hsame : h.SameSurroundings h')
    (huntouched : ∀ file ∈ s.solutionFile, h.files.Untouched h'.files file) (hprogram : s'.program = s.program)
    (hfile : s'.solutionFile = s.solutionFile) (hsolution : s'.solution = s.solution) : s'.Owns h' := by
  rcases howns with ⟨hnone, hdefault⟩ | ⟨file, bytes, hsome, htemporary, hstands, hread, hvalue⟩
  · exact .inl ⟨hfile.trans hnone, hsolution.trans hdefault⟩
  · have hleft := huntouched file hsome
    refine .inr ⟨file, bytes, hfile.trans hsome, hsame.isTemporary_iff.mpr htemporary, hleft.isFile hstands,
      (hleft.read hstands).trans hread, ?_⟩
    rw [hprogram, hsolution, hvalue]

/-- An operation that spares all temporary files, and neither replaces the solution nor its file. -/
lemma Confined.of_spares (hs : s.HasFile h) (hh : h.Spares h') (hprogram : s'.program = s.program)
    (hlimit : s'.limit = s.limit) (hfile : s'.solutionFile = s.solutionFile) (hsolution : s'.solution = s.solution) :
    s.Confined h s' h' where
  same := hh.same
  program := hprogram
  limit := hlimit
  file := hs.of_stays hh.same (fun _ hmem => (hh.untouched (hs _ hmem).1).stays) hfile
  owns howns := howns.of_untouched hh.same (fun _ hmem => hh.untouched (hs _ hmem).1) hprogram hfile hsolution
  others := by
    intro p hp hstands haside
    refine ⟨hh.untouched hp, fun file hmem => ?_⟩
    rw [hfile] at hmem
    obtain ⟨htemporary, hfile'⟩ := hs file hmem
    exact hh.aside htemporary hfile' hp hstands (haside file hmem)

lemma Confined.trans (hs : s.Confined h s' h') (hs' : s'.Confined h' s'' h'') : s.Confined h s'' h'' where
  same := hs.same.trans hs'.same
  program := hs'.program.trans hs.program
  limit := hs'.limit.trans hs.limit
  file := hs'.file
  owns howns := hs'.owns (hs.owns howns)
  others := by
    intro p hp hstands haside
    obtain ⟨huntouched, haside'⟩ := hs.others hp hstands haside
    obtain ⟨huntouched', haside''⟩ := hs'.others (hs.same.isTemporary_iff.mpr hp) (huntouched.isFile hstands) haside'
    exact ⟨huntouched.trans huntouched', haside''⟩

/-- **A report that is adopted belongs to its solution**, and only the former solution file is gone. -/
lemma Adopts.confined (hs : s.HasFile h) (ha : s.Adopts h bytes s' h') : s.Confined h s' h' := by
  obtain ⟨hvalue, file, place, h₁, hdelivers, hs', hsame, hfiles⟩ := ha
  have hclear : ∀ {p}, h₁.files.IsFile p → (∀ own ∈ s.solutionFile, h₁.files.placeOf own ≠ h₁.files.placeOf p) →
      h₁.files.Untouched h'.files p := by
    intro p hp haside
    rw [hfiles]
    refine Host.discardAny_untouched fun own hown => ?_
    obtain ⟨htemporary, hfile⟩ := hs own hown
    exact ((hdelivers.untouched htemporary).isFile hfile).clear (haside own hown)
  have hnew : h₁.files.Untouched h'.files file := hclear hdelivers.isFile fun own hown => by
    obtain ⟨htemporary, hfile⟩ := hs own hown
    exact (hdelivers.aside htemporary hfile).symm
  have hall : h.SameSurroundings h' := hdelivers.same.trans hsame
  have howns : s'.Owns h' := .inr ⟨file, bytes, by rw [hs'], hall.isTemporary_iff.mpr hdelivers.temporary,
    hnew.isFile hdelivers.isFile, (hnew.read hdelivers.isFile).trans hdelivers.read, by rw [hs']; exact hvalue⟩
  refine ⟨hall, by rw [hs'], by rw [hs'], howns.hasFile, fun _ => howns, fun hp hstands haside => ?_⟩
  have huntouched := hdelivers.untouched hp
  have hp₁ := huntouched.isFile hstands
  have hlast := hclear hp₁ fun own hown => by
    obtain ⟨htemporary, hfile⟩ := hs own hown
    exact hdelivers.toSpares.aside htemporary hfile hp hstands (haside own hown)
  refine ⟨huntouched.trans hlast, fun file' hfile' => ?_⟩
  rw [hs'] at hfile'
  obtain rfl := Option.some.inj hfile'
  rw [hnew.placeOf hdelivers.isFile, hlast.placeOf hp₁]
  exact hdelivers.aside hp hstands

/-! ### Computations of a backend -/

/-- A computation that does to a backend and the files of others only what is allowed, as long as programs keep to
themselves. -/
def Confines (act : BackendM CommandSolver α) : Prop :=
  ∀ (s : CommandSolver) (h : Host), h.launcher.KeepsToItself h.IsTemporary → s.HasFile h →
    s.Confined h (act (s, h)).2.1 (act (s, h)).2.2

/-- Programs keep to themselves on every host with the same surroundings. -/
lemma keepsToItself_of_same (hsame : h.SameSurroundings h') (hrun : h.launcher.KeepsToItself h.IsTemporary) :
    h'.launcher.KeepsToItself h'.IsTemporary := by
  have htemporary : h'.IsTemporary = h.IsTemporary := funext fun p => propext hsame.isTemporary_iff
  rwa [hsame.launcher, htemporary]

lemma confines_of_result {act : BackendM CommandSolver α} {result : Except Error α} (hact : act (s, h) = (result, (s', h')))
    (ha : s.Confined h s' h') : s.Confined h (act (s, h)).2.1 (act (s, h)).2.2 := by
  rwa [hact]

/-- A computation of the host that spares temporary files. -/
lemma confines_onHost {act : HostM α} (hact : ∀ h : Host, h.Spares (act h).2) : Confines (BackendM.onHost act) :=
  fun _ h _ hs => .of_spares hs (hact h) rfl rfl rfl rfl

/-- A computation on the backend as it is that spares temporary files. -/
lemma confines_reading {act : CommandSolver → HostM α}
    (hact : ∀ (s : CommandSolver) (h : Host), s.HasFile h → h.Spares (act s h).2) :
    Confines (BackendM.reading act) :=
  fun s h _ hs => .of_spares hs (hact s h hs) rfl rfl rfl rfl

lemma confines_throw (e : Error) : Confines (throw e : BackendM CommandSolver α) :=
  fun _ h _ hs => .of_spares hs (.refl h) rfl rfl rfl rfl

lemma confines_pure (a : α) : Confines (pure a) :=
  fun _ h _ hs => .of_spares hs (.refl h) rfl rfl rfl rfl

lemma Confines.bind {act : BackendM CommandSolver α} {f : α → BackendM CommandSolver β} (hact : Confines act)
    (hf : ∀ a, Confines (f a)) : Confines (act >>= f) := by
  intro s h hrun hs
  have hfirst := hact s h hrun hs
  rw [bind_apply]
  cases hresult : act (s, h) with
  | mk result x =>
      obtain ⟨s', h'⟩ := x
      rw [hresult] at hfirst
      cases result with
      | error e => exact hfirst
      | ok a => exact hfirst.trans (hf a s' h' (keepsToItself_of_same hfirst.same hrun) hfirst.file)

lemma spares_digestOfFile (path : String) (h : Host) : h.Spares (digestOfFile path h).2 := by
  cases hread : h.files.read path with
  | error fault =>
      rw [Cache.digestOfFile_of_error hread]
      exact .refl h
  | ok bytes =>
      rw [Cache.digestOfFile_of_ok hread]
      exact .refl h

lemma confines_doLoadProblem (path : String) (format : ProblemFormat) : Confines (doLoadProblem path format) :=
  fun _ _ _ hs => .of_spares hs (.of_files ⟨rfl, rfl⟩ rfl) rfl rfl rfl rfl

lemma confines_loadSolution (path : String) (kind : SolutionKind) : Confines (loadSolution path kind) := by
  intro s h _ hs
  rcases loadSolution_cases path kind s h with ⟨e, h₁, hload, hspares, -⟩ | ⟨bytes, s', h', -, hload, hadopts⟩
  · exact confines_of_result hload (.of_spares hs hspares rfl rfl rfl rfl)
  · exact confines_of_result hload (hadopts.confined hs)

lemma confines_solve : Confines solve := by
  intro s h hrun hs
  cases hproblem : s.problemFile with
  | none => exact confines_of_result (solve_of_no_problem hproblem h) (.of_spares hs (.refl h) rfl rfl rfl rfl)
  | some problem =>
      rcases solve_cases hrun hproblem with ⟨fault, h₁, -, hsolve, hspares⟩ | ⟨report, ending, files, -, hcases⟩
      · exact confines_of_result hsolve (.of_spares hs hspares rfl rfl rfl rfl)
      · rcases hcases with ⟨-, e, h₁, -, hsolve, hspares⟩ | ⟨-, bytes, -, ⟨e, h₁, -, hsolve, hspares⟩ | ⟨s', h₁, hsolve, ha⟩⟩
        · exact confines_of_result hsolve (.of_spares hs hspares rfl rfl rfl rfl)
        · exact confines_of_result hsolve (.of_spares hs hspares rfl rfl rfl rfl)
        · exact confines_of_result hsolve (ha.confined hs)

lemma Confines.loading {act : BackendM CommandSolver α} (hact : Confines act) (path : String) :
    Confines (Backend.loading path act) := hact

lemma confines_loadProblem (path : String) (format : ProblemFormat) (c : Cache) :
    Confines (Backend.loadProblem path format c) :=
  ((confines_onHost (spares_digestOfFile path)).loading path).bind fun _ =>
    ((confines_doLoadProblem path format).loading path).bind fun _ => confines_pure _

lemma confines_loadKnownSolution (path : String) (c : Cache) : Confines (Backend.loadKnownSolution path c) := by
  refine (confines_onHost (spares_digestOfFile path)).bind fun d => ?_
  cases c.get? d with
  | none => exact confines_throw _
  | some known => exact (confines_loadSolution _ _).bind fun _ => confines_pure _

/-! ### Saving and registering -/

lemma saveSolution_of_kind (hkind : kind ≠ .basic) :
    saveSolution s path kind h = (.error (.unsupportedFormat s.name kind.name), h) := by
  rw [saveSolution, if_pos hkind]
  exact bind_apply_error _ (throw_apply _ _)

lemma saveSolution_of_some {own : String} (hown : s.solutionFile = some own) :
    saveSolution s path .basic h = Host.copy own path h := by
  rw [saveSolution, if_neg (by simp), hown]

lemma saveSolution_of_none (hnone : s.solutionFile = none) :
    saveSolution s path .basic h = (.error (.notFound "solution file" s.name), h) := by
  rw [saveSolution, if_neg (by simp), hnone]
  rfl

/-- A solution is saved by a copy of its file, or not at all. -/
lemma saveSolution_eq (s : CommandSolver) (path : String) (kind : SolutionKind) (h : Host) :
    (∃ e, Backend.saveSolution s path kind h = (.error e, h))
      ∨ ∃ own ∈ s.solutionFile, Backend.saveSolution s path kind h = Host.copy own path h := by
  by_cases hkind : kind ≠ .basic
  · exact .inl ⟨_, saveSolution_of_kind hkind⟩
  obtain rfl := not_not.mp hkind
  cases hown : s.solutionFile with
  | none => exact .inl ⟨_, saveSolution_of_none hown⟩
  | some own => exact .inr ⟨own, rfl, saveSolution_of_some hown⟩

/-- A problem is saved by a copy of its file, or not at all. -/
lemma saveProblem_eq (s : CommandSolver) (path : String) (format : ProblemFormat) (h : Host) :
    (∃ e, Backend.saveProblem s path format h = (.error e, h))
      ∨ ∃ file, Backend.saveProblem s path format h = Host.copy file path h := by
  change (∃ e, saveProblem s path format h = (.error e, h)) ∨ ∃ file, saveProblem s path format h = Host.copy file path h
  unfold saveProblem
  cases s.problemFile with
  | none => exact .inl ⟨_, rfl⟩
  | some file =>
      cases s.problemFormat with
      | none => exact .inl ⟨_, rfl⟩
      | some loaded =>
          by_cases hformat : format ≠ loaded
          · simp only [if_pos hformat]
            exact .inl ⟨_, bind_apply_error _ (throw_apply _ _)⟩
          · simp only [if_neg hformat]
            exact .inr ⟨file, rfl⟩

/-- **Saving a solution leaves every file where it is**, and alone if the path does not lead to it; the file of the
solution is also left alone if it is saved onto itself. -/
lemma saveSolution_untouched (s : CommandSolver) (path : String) (kind : SolutionKind) (h : Host) :
    h.SameSurroundings (Backend.saveSolution s path kind h).2
      ∧ (∀ p, h.files.Stays (Backend.saveSolution s path kind h).2.files p)
      ∧ ∀ p, (¬h.files.LeadsTo path p ∨ ∃ own ∈ s.solutionFile, h.files.samePlace own path = true) →
        h.files.Untouched (Backend.saveSolution s path kind h).2.files p := by
  rcases saveSolution_eq s path kind h with ⟨e, hsave⟩ | ⟨own, hown, hsave⟩
  · rw [hsave]
    exact ⟨.refl h, fun p => (Files.Untouched.refl _ p).stays, fun _ _ => .refl _ _⟩
  · rw [hsave]
    refine ⟨Host.copy_same own path h, Host.copy_stays own path h, fun p htarget => ?_⟩
    refine Host.copy_untouched (htarget.symm.imp_left ?_)
    rintro ⟨own', hown', hsame⟩
    obtain rfl := Option.some.inj (hown.symm.trans hown')
    exact hsame

/-- **Saving a problem leaves every file where it is**, and alone if the path does not lead to it. -/
lemma saveProblem_untouched (s : CommandSolver) (path : String) (format : ProblemFormat) (h : Host) :
    h.SameSurroundings (Backend.saveProblem s path format h).2
      ∧ (∀ p, h.files.Stays (Backend.saveProblem s path format h).2.files p)
      ∧ ∀ p, ¬h.files.LeadsTo path p → h.files.Untouched (Backend.saveProblem s path format h).2.files p := by
  rcases saveProblem_eq s path format h with ⟨e, hsave⟩ | ⟨file, hsave⟩
  · rw [hsave]
    exact ⟨.refl h, fun p => (Files.Untouched.refl _ p).stays, fun _ _ => .refl _ _⟩
  · rw [hsave]
    exact ⟨Host.copy_same file path h, Host.copy_stays file path h, fun p htarget => Host.copy_untouched (.inr htarget)⟩

/-- **The current report is delivered in a new temporary file**, or nothing has changed. -/
lemma saveSolutionToTemporary_cases (hs : s.HasFile h) (kind : SolutionKind) :
    (∃ e h₁, Backend.saveSolutionToTemporary s kind h = (.error e, h₁) ∧ h.Spares h₁
        ∧ (kind = .basic → s.solutionFile.isSome → ∃ fault, fault ≠ .invalidData ∧ e = .file fault))
      ∨ ∃ own bytes file place h₁, s.solutionFile = some own ∧ h.files.read own = .ok bytes
          ∧ Backend.saveSolutionToTemporary s kind h = (.ok file, h₁) ∧ h.Delivers h₁ file place bytes := by
  rw [Backend.saveSolutionToTemporary]
  rcases Host.makes_of_makeTemporary (Backend.name s ++ "-") "-solution.lp" h with
    ⟨file, h₁, place, hmake, hmakes⟩ | ⟨fault, hfault, hmake⟩
  · rw [bind_apply_ok _ hmake]
    have hfailed : ∀ {e}, saveSolution s file kind h₁ = (.error e, h₁) →
        (Host.discardOnError file (Backend.saveSolution s file kind) >>= fun _ => pure file) h₁
          = (.error e, (Host.discard file h₁).2) := fun hsave =>
      bind_apply_error _ (Host.discardOnError_of_error file hsave)
    by_cases hkind : kind ≠ .basic
    · exact .inl ⟨_, _, hfailed (saveSolution_of_kind hkind), hmakes.delivers.discard, fun h => absurd h hkind⟩
    obtain rfl := not_not.mp hkind
    cases hown : s.solutionFile with
    | none => exact .inl ⟨_, _, hfailed (saveSolution_of_none hown), hmakes.delivers.discard, fun _ h => by simp at h⟩
    | some own =>
        obtain ⟨-, q, n, hstands⟩ := hs own hown
        obtain ⟨h₂, hcopy, hdelivers⟩ := hmakes.copy_of_found hstands.find
        refine .inr ⟨own, _, file, place, h₂, rfl, hstands.read, ?_, hdelivers⟩
        exact bind_apply_ok _ (Host.discardOnError_of_ok file ((saveSolution_of_some hown).trans hcopy))
  · exact .inl ⟨_, h, bind_apply_error _ hmake, .refl h, fun _ _ => ⟨fault, hfault, rfl⟩⟩

lemma confines_saveSolutionToTemporary (kind : SolutionKind) :
    Confines (BackendM.reading fun s => Backend.saveSolutionToTemporary s kind) := by
  refine confines_reading fun s h hs => ?_
  rcases saveSolutionToTemporary_cases hs kind with
    ⟨e, h₁, hsave, hspares, -⟩ | ⟨own, bytes, file, place, h₁, -, -, hsave, hdelivers⟩
  · rwa [hsave]
  · rw [hsave]
    exact hdelivers.toSpares

/-- A solution has been registered. The cache owns a copy of the report, the files of the entries that give way are gone,
and all other temporary files are as before. -/
structure Registers (h : Host) (c : Cache) (entry : Digest × KnownSolution) (bytes : List UInt8) (h' : Host) : Prop where
  same : h.SameSurroundings h'
  owns : (c.insert entry.1 entry.2).Owns h'
  new : ¬h.files.IsFile entry.2.file
  read : h'.files.read entry.2.file = .ok bytes
  entries : ∀ e ∈ c.entries, e ∈ (c.insert entry.1 entry.2).entries → h.files.Untouched h'.files e.2.file
  gone : ∀ e ∈ c.entries, e ∉ (c.insert entry.1 entry.2).entries → h'.files.holds e.2.file = false
  others : ∀ {p}, h.IsTemporary p → h.files.IsFile p → (∀ e ∈ c.entries, h.files.placeOf e.2.file ≠ h.files.placeOf p) →
    h.files.Untouched h'.files p ∧ h'.files.placeOf entry.2.file ≠ h'.files.placeOf p

/-- **The current solution becomes an entry**, or nothing has changed. -/
lemma registerSolution_cases {c : Cache} (hs : s.HasFile h) (hcache : c.Owns h) (problem : String) (status : Status) :
    (∃ e h', Backend.registerSolution s problem status (c, h) = (.error e, (c, h')) ∧ h.Spares h'
        ∧ (s.solutionFile.isSome → ∃ fault, fault ≠ .invalidData ∧ e = .file fault))
      ∨ ∃ own bytes file h₁ content h', s.solutionFile = some own ∧ h.files.read own = .ok bytes
          ∧ Backend.saveSolutionToTemporary s .basic h = (.ok file, h₁) ∧ h₁.files.read problem = .ok content
          ∧ Backend.registerSolution s problem status (c, h)
            = (.ok ⟨⟩, (c.insert (.ofBytes content) ⟨file, status, .basic⟩, h'))
          ∧ Registers h c (.ofBytes content, ⟨file, status, .basic⟩) bytes h' := by
  rw [Backend.registerSolution]
  rcases saveSolutionToTemporary_cases hs .basic with
    ⟨e, h₁, hsave, hspares, hfault⟩ | ⟨own, bytes, file, place, h₁, hown, hread, hsave, hdelivers⟩
  · have hfailed := Backend.cacheOnHost_eq_iff.mpr ⟨hsave, (rfl : c = c)⟩
    exact .inl ⟨e, h₁, bind_apply_error _ hfailed, hspares, hfault rfl⟩
  · have hsaved := Backend.cacheOnHost_eq_iff.mpr ⟨hsave, (rfl : c = c)⟩
    cases hproblem : h₁.files.read problem with
    | error fault =>
        refine .inl ⟨.file fault, _, (bind_apply_ok _ hsaved).trans (Cache.register_of_error hproblem),
          hdelivers.discard, fun _ => ⟨fault, ?_, rfl⟩⟩
        rintro rfl
        exact Files.read_ne_invalidData hproblem
    | ok content =>
        have hentries : ∀ e ∈ c.entries, h.files.Untouched h₁.files e.2.file := fun e he =>
          hdelivers.untouched (hcache.file e he).1
        have hcache₁ : c.Owns h₁ := hcache.of_untouched hdelivers.same hentries
        have hnew : ∀ e ∈ c.entries, h₁.files.placeOf e.2.file ≠ h₁.files.placeOf file := fun e he =>
          (hdelivers.aside (hcache.file e he).1 (hcache.file e he).2).symm
        obtain ⟨h', hregister, htakes⟩ := hcache₁.registerAs (.ofBytes content) problem
          ⟨file, status, .basic⟩ (hdelivers.same.isTemporary_iff.mpr hdelivers.temporary) hdelivers.isFile hnew
        have hfile : h₁.files.Untouched h'.files file := htakes.others file hdelivers.isFile hnew
        refine .inr ⟨own, bytes, file, h₁, content, h', hown, hread, hsave, hproblem, ?_, hdelivers.same.trans htakes.same,
          htakes.owns, fun hold => hdelivers.aside hdelivers.temporary hold rfl,
          (hfile.read hdelivers.isFile).trans hdelivers.read,
          fun e he he' => (hentries e he).trans (htakes.entries e he'), htakes.gone, fun hp hstands hne => ?_⟩
        · exact (bind_apply_ok _ hsaved).trans ((Cache.register_of_ok hproblem).trans hregister)
        · have huntouched := hdelivers.untouched hp
          have hp₁ := huntouched.isFile hstands
          have hlast := htakes.others _ hp₁ fun e he =>
            hdelivers.toSpares.aside (hcache.file e he).1 (hcache.file e he).2 hp hstands (hne e he)
          refine ⟨huntouched.trans hlast, ?_⟩
          rw [hfile.placeOf hdelivers.isFile, hlast.placeOf hp₁]
          exact hdelivers.aside hp hstands

/-- **A report that has been saved for a cache and is not registered is gone.** -/
lemma not_holds_of_registerSolution_error {c c' : Cache} {h₁ : Host} {problem file : String} {status : Status} {e : Error}
    (hs : s.HasFile h) (hsave : Backend.saveSolutionToTemporary s .basic h = (.ok file, h₁))
    (hregister : Backend.registerSolution s problem status (c, h) = (.error e, (c', h'))) :
    c' = c ∧ h'.files.holds file = false := by
  rcases saveSolutionToTemporary_cases hs .basic with
    ⟨e', h₂, hfailed, -⟩ | ⟨own, bytes, file', place, h₂, -, -, hsaved, hdelivers⟩
  · cases hsave.symm.trans hfailed
  · obtain ⟨hfile, rfl⟩ := Prod.mk.inj (hsave.symm.trans hsaved)
    obtain rfl := Except.ok.inj hfile
    have hrest : Backend.registerSolution s problem status (c, h)
        = Cache.register problem ⟨file, status, .basic⟩ (c, h₁) :=
      bind_apply_ok _ (Backend.cacheOnHost_eq_iff.mpr ⟨hsave, (rfl : c = c)⟩)
    obtain ⟨hcache, -, hgone⟩ := Cache.not_holds_of_register_error hdelivers.isFile (hrest.symm.trans hregister)
    exact ⟨hcache, hgone⟩

end CommandSolver

end LinearProgram
