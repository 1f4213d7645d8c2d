import LinearProgram.Proofs.Solver.Bench

/-!
What a run comes to when the backend starts a program.

A run without a cache solves the problem. A run with a cache either reads the stored report of an entry and answers
with the status of the entry, or solves the problem and makes the report an entry. Both parts are told by the reports
that the program reads.

* `CommandSolver.holding`: a backend that has taken over a problem file.
* `CommandSolver.solve_of_ok`: a problem is solved by adopting a report.
* `Bench.solveAndRegister_cases`: what becomes of a problem that is solved for a cache.
* `Bench.runCached_cases`: **a run with a cache reads a stored report, or solves the problem.**
-/

namespace LinearProgram

namespace CommandSolver

variable {s s' : CommandSolver} {h h' : Host} {path : String} {format : ProblemFormat} {status : Status}

/-- The backend once it has taken over a problem file. -/
def holding (s : CommandSolver) (path : String) (format : ProblemFormat) : CommandSolver :=
  { s with problemFile := some path, problemFormat := some format }

/-- Taking over a problem file is no work on the files. -/
lemma doLoadProblem_apply (path : String) (format : ProblemFormat) (s : CommandSolver) (h : Host) :
    ∃ h₁, Backend.doLoadProblem path format (s, h) = (.ok ⟨⟩, (s.holding path format, h₁))
      ∧ h.SameSurroundings h₁ ∧ h₁.files = h.files :=
  ⟨_, rfl, ⟨rfl, rfl⟩, rfl⟩

lemma taken_apply (path : String) (format : ProblemFormat) (t : Bench CommandSolver) :
    ∃ h, Backend.taken path format t = (.ok ⟨⟩, ⟨t.backend.holding path format, t.cache, h⟩)
      ∧ t.host.SameSurroundings h ∧ h.files = t.host.files := by
  obtain ⟨h, hload, hsame⟩ := doLoadProblem_apply path format t.backend t.host
  exact ⟨h, Backend.onBackend_eq_iff.mpr ⟨hload, rfl⟩, hsame⟩

lemma runAlone_apply (path : String) (format : ProblemFormat) (s : CommandSolver) (h : Host) :
    ∃ h₁, Backend.runAlone path format (s, h) = solve (s.holding path format, h₁)
      ∧ h.SameSurroundings h₁ ∧ h₁.files = h.files := by
  obtain ⟨h₁, hload, hsame⟩ := doLoadProblem_apply path format s h
  exact ⟨h₁, bind_apply_ok _ (Backend.loading_of_ok path hload), hsame⟩

/-- **A problem is solved by adopting a report**, and the status is that of the solution. -/
lemma solve_of_ok (hrun : h.launcher.KeepsToItself h.IsTemporary) (hsolve : solve (s, h) = (.ok status, (s', h'))) :
    status = s'.solution.status ∧ ∃ bytes, s.Adopts h bytes s' h' := by
  cases hproblem : s.problemFile with
  | none => cases hsolve.symm.trans (solve_of_no_problem hproblem h)
  | some problem =>
      rcases solve_cases hrun hproblem with ⟨fault, h₁, -, heq, -⟩ | ⟨report, ending, files, -, hcases⟩
      · cases hsolve.symm.trans heq
      · rcases hcases with ⟨-, e, h₁, -, heq, -⟩ | ⟨-, bytes, -, ⟨e, h₁, -, heq, -⟩ | ⟨s₁, h₁, heq, hadopts⟩⟩
        · cases hsolve.symm.trans heq
        · cases hsolve.symm.trans heq
        · obtain ⟨hstatus, hstate⟩ := Prod.mk.inj (hsolve.symm.trans heq)
          obtain ⟨rfl, rfl⟩ := Prod.mk.inj hstate
          exact ⟨Except.ok.inj hstatus, bytes, hadopts⟩

/-- Adopting a report leaves the problem file as it is. -/
lemma Adopts.problemFile {bytes : List UInt8} (h : s.Adopts h bytes s' h') : s'.problemFile = s.problemFile := by
  obtain ⟨file, -, -, -, hs', -⟩ := h.delivered
  rw [hs']

/-- So does loading a solution, whether it fails or not. -/
lemma loadSolution_problemFile {kind : SolutionKind} {result : Except Error Unit}
    (hload : loadSolution path kind (s, h) = (result, (s', h'))) : s'.problemFile = s.problemFile := by
  cases result with
  | error e => rw [(loadSolution_of_error hload).1]
  | ok _ =>
      obtain ⟨bytes, -, hadopts⟩ := loadSolution_of_ok hload
      exact hadopts.problemFile

lemma Adopts.solutionFile {bytes : List UInt8} (h : s.Adopts h bytes s' h') : s'.solutionFile.isSome := by
  obtain ⟨file, -, -, -, hs', -⟩ := h.delivered
  rw [hs']
  rfl

end CommandSolver

namespace Bench

open Backend (Ready Hits atSolving solved saved)
open CommandSolver (keepsToItself_of_same)

variable {t u v : Bench CommandSolver} {path : String} {format : ProblemFormat} {content : List UInt8}

/-- **What becomes of a problem that is solved for a cache.** The program fails; or the solution is not registered for
the sake of a file; or it becomes an entry whose file is a copy of the report. -/
lemma solveAndRegister_cases (hrun : v.host.launcher.KeepsToItself v.host.IsTemporary) (howns : v.Owns) (path : String) :
    (∃ e u, solved v = (.error e, u) ∧ Backend.solveAndRegister path v = (.error e, u) ∧ u.cache = v.cache)
      ∨ ∃ status u, solved v = (.ok status, u) ∧ status = u.backend.solution.status ∧ v.Advance u
        ∧ ((∃ fault w, fault ≠ .invalidData ∧ Backend.solveAndRegister path v = (.error (.file fault), w)
              ∧ w.cache = v.cache)
          ∨ ∃ bytes file w content h, saved u = (.ok file, w) ∧ w.host.files.read path = .ok content
            ∧ (v.backend.program.readReport bytes).value = .ok u.backend.solution
            ∧ Backend.solveAndRegister path v
              = (.ok status, ⟨u.backend, v.cache.insert (.ofBytes content) ⟨file, status, .basic⟩, h⟩)
            ∧ CommandSolver.Registers u.host v.cache (.ofBytes content, ⟨file, status, .basic⟩) bytes h) := by
  have hadvance := ((keeps_onBackend CommandSolver.confines_solve).1 v hrun howns.hasFiles).advance howns
  change v.Advance (solved v).2 at hadvance
  cases hsolved : solved v with
  | mk result u =>
      rw [hsolved] at hadvance
      obtain ⟨hsolve, hcache⟩ := Backend.onBackend_eq_iff.mp hsolved
      cases result with
      | error e => exact .inl ⟨e, u, rfl, Backend.solveAndRegister_of_unsolved hsolved, hcache⟩
      | ok status =>
          obtain ⟨hstatus, bytes, hadopts⟩ := CommandSolver.solve_of_ok hrun hsolve
          have hrest : Backend.solveAndRegister path v = _ := Backend.solveAndRegister_of_solved hsolved
          refine .inr ⟨status, u, rfl, hstatus, hadvance, ?_⟩
          rcases CommandSolver.registerSolution_cases hadvance.files.backend hadvance.files.cache path status with
            ⟨e, h, hregister, -, hfault⟩ | ⟨own, bytes', file, h₁, content, h, hown, hread, hsave, hcontent, hregister, hr⟩
          · obtain ⟨fault, hne, rfl⟩ := hfault hadopts.solutionFile
            refine .inl ⟨fault, ⟨u.backend, u.cache, h⟩, hne, hrest.trans (Backend.onCache_eq_iff.mpr ⟨?_, rfl⟩), hcache⟩
            exact bind_apply_error _ hregister
          · have hsaved : saved u = (.ok file, ⟨u.backend, u.cache, h₁⟩) :=
              Backend.onCache_eq_iff.mpr ⟨Backend.cacheOnHost_eq_iff.mpr ⟨hsave, rfl⟩, rfl⟩
            refine .inr ⟨bytes', file, _, content, h, hsaved, hcontent, ?_, hrest.trans ?_, hcache ▸ hr⟩
            · rw [← hadvance.program]
              exact hadvance.owns.backend.value hown hread
            · rw [← hcache]
              exact Backend.onCache_eq_iff.mpr ⟨bind_apply_ok _ hregister, rfl⟩

/-- Loading a known solution leaves the problem file as it is. -/
lemma problemFile_settled (known? : Option KnownSolution) (t : Bench CommandSolver) :
    (Backend.settled known? t).backend.problemFile = t.backend.problemFile := by
  cases known? with
  | none => rfl
  | some known =>
      rw [Backend.settled]
      cases hrecalled : Backend.recalled known t with
      | mk result u =>
          have hproblem : u.backend.problemFile = t.backend.problemFile :=
            CommandSolver.loadSolution_problemFile (Backend.onBackend_eq_iff.mp hrecalled).1
          cases result with
          | error e => exact hproblem
          | ok _ => exact hproblem

/-- The solution of an entry is what the program reads in its file, and the cache stays as it is. -/
lemma read_of_hits {bytes : List UInt8} {known : KnownSolution} (hhit : Hits t bytes known u) :
    (∃ report, t.host.files.read known.file = .ok report
        ∧ (t.backend.program.readReport report).value = .ok u.backend.solution)
      ∧ u.cache = t.cache := by
  obtain ⟨hload, hcache⟩ := Backend.onBackend_eq_iff.mp hhit.recalled
  obtain ⟨report, hread, hadopts⟩ := CommandSolver.loadSolution_of_ok hload
  exact ⟨⟨report, hread, hadopts.value⟩, hcache⟩

/-- **A run with a cache.** The problem file cannot be read; or there is an entry with a status that tells something,
whose report the program reads; or the problem is solved. -/
lemma runCached_cases (hrun : t.host.launcher.KeepsToItself t.host.IsTemporary) (howns : t.Owns) (path : String)
    (format : ProblemFormat) :
    (∃ fault, t.host.files.read path = .error fault
        ∧ Backend.runCached path format t = (.error (.problemLoad path (.file fault)), t))
      ∨ ∃ content, t.host.files.read path = .ok content
        ∧ ((∃ known bytes u, t.cache.get? (.ofBytes content) = some known ∧ known.status ≠ .unknown
              ∧ t.host.files.read known.file = .ok bytes
              ∧ (t.backend.program.readReport bytes).value = .ok u.backend.solution
              ∧ Backend.runCached path format t = (.ok known.status, u) ∧ u.cache = t.cache)
          ∨ ∃ t' v, Ready path format t content t' ∧ v = atSolving content t' ∧ v.backend.problemFile = some path
              ∧ t.Advance v ∧ v.cache = t.cache
              ∧ Backend.runCached path format t = Backend.solveAndRegister path v) := by
  cases hread : t.host.files.read path with
  | error fault =>
      have hdigest := Backend.loading_of_error path (Backend.onHost_apply (b := t.backend) (Cache.digestOfFile_of_error hread))
      refine .inl ⟨fault, rfl, Backend.runCached_of_unloaded (Backend.onBackend_eq_iff.mpr ⟨?_, rfl⟩)⟩
      rw [Backend.loadProblem, bind_apply_error _ hdigest]
  | ok content =>
      refine .inr ⟨content, rfl, ?_⟩
      obtain ⟨h, htaken, hsame, hfiles⟩ := CommandSolver.taken_apply path format t
      set t' : Bench CommandSolver := ⟨t.backend.holding path format, t.cache, h⟩ with ht'
      have hready : Ready path format t content t' := ⟨hread, htaken⟩
      have hread' : t'.host.files.read path = .ok content := by
        rw [← hread]
        exact congrArg (fun fs => Files.read fs path) hfiles
      have hload := Backend.loadProblem_of_ready hready
      have hconfined : t.Confined t' :=
        .of_backend howns.hasFiles rfl (.of_spares howns.backend.hasFile (.of_files hsame hfiles) rfl rfl rfl rfl)
      by_cases hhit : ∃ known u, Hits t' content known u
      · obtain ⟨known, u, hhit⟩ := hhit
        left
        obtain ⟨⟨bytes, hbytes, hvalue⟩, hcache⟩ := read_of_hits hhit
        refine ⟨known, bytes, Backend.noted (Backend.reuseNotice u.backend path known.status) u, hhit.entry,
          hhit.telling, ?_, hvalue, ?_, hcache⟩
        · rw [← hbytes]
          exact congrArg (fun fs => Files.read fs known.file) hfiles.symm
        · rw [Backend.runCached_apply, bind_apply_ok _ hload, bind_apply_ok _ (Backend.answer_of_hit hread' hhit),
            Backend.concluded, if_pos hhit.telling]
          rfl
      · right
        have hanswer := Backend.answer_of_no_hit hread' hhit
        have hsettled := (keeps_answer path (t'.cache.contains (.ofBytes content))).1 t'
          (keepsToItself_of_same hconfined.same hrun) hconfined.files
        rw [hanswer] at hsettled
        refine ⟨t', atSolving content t', hready, rfl, problemFile_settled _ t', (hconfined.trans rfl hsettled).advance howns,
          Backend.settled_cache _ t', ?_⟩
        rw [Backend.runCached_apply, bind_apply_ok _ hload, bind_apply_ok _ hanswer, Backend.concluded, if_neg (by simp)]

end Bench

end LinearProgram
