import LinearProgram.Proofs.Solver.Fleet

/-!
A solution and its file stay together.

A backend that starts a program keeps its solution in two forms, as a value and as the report file from which the value
has been read. Both are replaced together by solving and by loading, whatever happens in between, and nobody else
touches the file. What can still separate them is a solution that is saved onto its own file under a name at another
place: the file is emptied before it is read.

* `CommandSolver.solve_of_error`: a failure replaces nothing.
* `CommandSolver.read_of_saved`: what has been saved can be read by the same program.
* `Fleet.solution_with_file`: **solutions and their files stay together, whatever a fleet is asked for**, and a solution
  that is saved by one backend and loaded by another one is the same solution.
* `CommandSolver.not_owns_of_saved`: saving a solution onto its own file at another place loses the file, as it happens
  in `Fleet.not_owns_linkedPair`.
-/

namespace LinearProgram

namespace Program

/-- There is no solution in an empty report. -/
lemma readReport_nil (program : Program) (solution : Solution) : (program.readReport []).value ≠ .ok solution := by
  cases program <;> exact fun h => by cases h

end Program

namespace CommandSolver

variable {s s' : CommandSolver} {h h' : Host} {path : String} {kind : SolutionKind} {e : Error}

/-! ### Failures -/

/-- **A solve that fails replaces nothing.** -/
lemma solve_of_error (hrun : h.launcher.KeepsToItself h.IsTemporary) (hsolve : solve (s, h) = (.error e, (s', h'))) :
    s' = s ∧ h.Spares h' := by
  have hsame : ∀ {e' h₁}, solve (s, h) = (.error e', (s, h₁)) → h.Spares h₁ → s' = s ∧ h.Spares h' := by
    intro e' h₁ heq hspares
    obtain ⟨-, hstate⟩ := Prod.mk.inj (hsolve.symm.trans heq)
    obtain ⟨rfl, rfl⟩ := Prod.mk.inj hstate
    exact ⟨rfl, hspares⟩
  cases hproblem : s.problemFile with
  | none => exact hsame (solve_of_no_problem hproblem h) (.refl h)
  | some problem =>
      rcases solve_cases hrun hproblem with ⟨fault, h₁, -, heq, hspares⟩ | ⟨report, ending, files, -, hcases⟩
      · exact hsame heq hspares
      · rcases hcases with ⟨-, e', h₁, -, heq, hspares⟩ | ⟨-, bytes, -, ⟨e', h₁, -, heq, hspares⟩ | ⟨s₁, h₁, heq, -⟩⟩
        · exact hsame heq hspares
        · exact hsame heq hspares
        · cases hsolve.symm.trans heq

/-! ### Saving and loading -/

/-- **What has been saved can be read by the same program**, and gives the same solution. -/
lemma read_of_saved (howns : s.Owns h) (hsave : Backend.saveSolution s path kind h = (.ok ⟨⟩, h'))
    (htarget : ∀ own ∈ s.solutionFile, h.files.samePlace own path = true ∨ ¬h.files.LeadsTo path own) :
    ∃ bytes, (s.program.readReport bytes).value = .ok s.solution
      ∧ (h'.files.read path = .ok bytes ∨ h'.files.read path = .ok [])
      ∧ (h'.files.LeadsToFile path → h'.files.read path = .ok bytes) := by
  change saveSolution s path kind h = (.ok ⟨⟩, h') at hsave
  by_cases hkind : kind ≠ .basic
  · rw [saveSolution_of_kind hkind] at hsave
    cases hsave
  obtain rfl := not_not.mp hkind
  rcases howns with ⟨hnone, -⟩ | ⟨own, bytes, hown, -, ⟨q, n, hstands⟩, hread, hvalue⟩
  · rw [saveSolution_of_none hnone] at hsave
    cases hsave
  · rw [saveSolution_of_some hown, Host.copy] at hsave
    cases hcopy : h.files.copy own path with
    | error fault =>
        rw [Host.change_of_error hcopy] at hsave
        cases hsave
    | ok files =>
        rw [Host.change_of_ok hcopy] at hsave
        obtain ⟨-, rfl⟩ := Prod.mk.inj hsave
        have hbytes : (h.files.stored n).bytes = bytes := Except.ok.inj (hstands.read.symm.trans hread)
        have hcopied := Files.read_of_copy hstands hcopy (htarget own hown)
        rw [hbytes] at hcopied
        exact ⟨bytes, hvalue, hcopied⟩

/-- What is loaded is what the program reads. -/
lemma solution_of_loaded {bytes : List UInt8} (hread : h.files.read path = .ok bytes)
    (hload : loadSolution path kind (s, h) = (.ok ⟨⟩, (s', h'))) :
    (s.program.readReport bytes).value = .ok s'.solution := by
  obtain ⟨bytes', hread', hadopts⟩ := loadSolution_of_ok hload
  obtain rfl := Except.ok.inj (hread.symm.trans hread')
  exact hadopts.value

/-- What is loaded from a report is the solution in it, also if a device may have taken the report. -/
lemma solution_of_loaded_or_nil {bytes : List UInt8} {solution : Solution}
    (hvalue : (s.program.readReport bytes).value = .ok solution)
    (hread : h.files.read path = .ok bytes ∨ h.files.read path = .ok [])
    (hload : loadSolution path kind (s, h) = (.ok ⟨⟩, (s', h'))) : s'.solution = solution := by
  rcases hread with hread | hnone
  · exact Except.ok.inj ((solution_of_loaded hread hload).symm.trans hvalue)
  · exact absurd (solution_of_loaded hnone hload) (Program.readReport_nil _ _)

/-- A report with a solution in it is loaded, unless there is no file for its copy. -/
lemma reply_of_loaded {bytes : List UInt8} {solution : Solution} {reply : Except Error Unit}
    (hvalue : (s.program.readReport bytes).value = .ok solution) (hread : h.files.read path = .ok bytes)
    (hload : loadSolution path .basic (s, h) = (reply, (s', h'))) :
    reply = .ok ⟨⟩ ∨ ∃ fault, fault ≠ .invalidData ∧ reply = .error (.file fault) := by
  rcases loadSolution_cases path .basic s h with ⟨e, h₁, heq, -, hfault⟩ | ⟨bytes', s₁, h₁, -, heq, -⟩
  · obtain ⟨rfl, -⟩ := Prod.mk.inj (hload.symm.trans heq)
    obtain ⟨fault, hne, rfl⟩ := hfault rfl hread hvalue
    exact .inr ⟨fault, hne, rfl⟩
  · obtain ⟨rfl, -⟩ := Prod.mk.inj (hload.symm.trans heq)
    exact .inl rfl

/-- **A solution that is saved onto its own file at another place is lost.** The file is emptied before it is read, and
both names stand for it. -/
lemma not_owns_of_saved {own : String} {q r : Place} {n : ℕ} (hown : s.solutionFile = some own)
    (hstands : h.files.Stands own q n) (hother : h.files.Stands path r n) (hne : q ≠ r) :
    ∃ h', Backend.saveSolution s path .basic h = (.ok ⟨⟩, h') ∧ h'.files.read own = .ok [] ∧ ¬s.Owns h' := by
  obtain ⟨f, hcopy, hf⟩ := Files.copy_of_found hstands.find hother hne
  rw [if_pos rfl] at hf
  have hread : (h.files.change n f).read own = .ok [] := by
    have hstands' : (h.files.change n f).Stands own q n := Files.stays_change n f own hstands
    rw [hstands'.read, Files.stored_change_self hstands.numbered, hf]
  refine ⟨_, (saveSolution_of_some hown).trans (Host.change_of_ok hcopy), hread, ?_⟩
  rintro (⟨hnone, -⟩ | ⟨file, bytes, hfile, -, -, hbytes, hvalue⟩)
  · rw [hown] at hnone
    cases hnone
  · obtain rfl := Option.some.inj (hown.symm.trans hfile)
    obtain rfl := Except.ok.inj (hread.symm.trans hbytes)
    exact Program.readReport_nil _ _ hvalue

end CommandSolver

namespace Fleet

section

variable {ι κ : Type} [DecidableEq ι] [DecidableEq κ] {x x' : Fleet ι κ} {i : ι} {k : κ} {e : Error}

/-! ### Fleets -/

/-- **Solving and loading replace the solution and its file, or neither of them.** -/
lemma Sound.of_error (hx : x.Sound) (hrun : x.KeepsToItself) {op : Operation}
    (hop : op = .solve ∨ ∃ path kind, op = .loadSolution path kind) (hstep : x.step (.ask i k op) = (.error e, x')) :
    x'.solvers i = x.solvers i ∧ ∀ file ∈ (x.solvers i).solutionFile, x.host.files.Untouched x'.host.files file := by
  have hsame : ∀ {h}, x.host.Spares h → x' = x.seat i k ⟨x.solvers i, x.caches k, h⟩ →
      x'.solvers i = x.solvers i ∧ ∀ file ∈ (x.solvers i).solutionFile, x.host.files.Untouched x'.host.files file := by
    rintro h hspares rfl
    exact ⟨seat_solvers_self, fun file hfile => hspares.untouched ((hx.solvers i).file hfile).1⟩
  rcases hop with rfl | ⟨path, kind, rfl⟩
  · cases hsolve : CommandSolver.solve (x.solvers i, x.host) with
    | mk result state =>
        obtain ⟨s, h⟩ := state
        obtain ⟨hreply, hstate⟩ := Prod.mk.inj ((step_solve hsolve).symm.trans hstep)
        cases result with
        | ok status => cases hreply
        | error e =>
            obtain ⟨rfl, hspares⟩ := CommandSolver.solve_of_error hrun hsolve
            exact hsame hspares hstate.symm
  · cases hload : CommandSolver.loadSolution path kind (x.solvers i, x.host) with
    | mk result state =>
        obtain ⟨s, h⟩ := state
        obtain ⟨hreply, hstate⟩ := Prod.mk.inj ((step_loadSolution hload).symm.trans hstep)
        cases result with
        | ok => cases hreply
        | error e =>
            obtain ⟨rfl, hspares⟩ := CommandSolver.loadSolution_of_error hload
            exact hsame hspares hstate.symm

/-- **What one backend has saved, another one of the same program loads as the same solution.** It can only fail for the
sake of a file. -/
lemma Sound.loaded_of_saved (hx : x.Sound) {path : String} {kind : SolutionKind} {y z z' : Fleet ι κ} {j : ι} {l : κ}
    {reply : Except Error (Option Status)} (hproper : (Request.ask i k (.saveSolution path kind)).Proper x)
    (hsave : x.step (.ask i k (.saveSolution path kind)) = (.ok none, y))
    (hread : z.host.files.read path = y.host.files.read path)
    (hprogram : (z.solvers j).program.solverKind = (x.solvers i).program.solverKind)
    (hload : z.step (.ask j l (.loadSolution path .basic)) = (reply, z')) :
    (reply = .ok none → (z'.solvers j).solution = (x.solvers i).solution)
      ∧ (y.host.files.LeadsToFile path → reply = .ok none ∨ ∃ fault, fault ≠ .invalidData ∧ reply = .error (.file fault)) := by
  have htarget : ∀ own ∈ (x.solvers i).solutionFile,
      x.host.files.samePlace own path = true ∨ ¬x.host.files.LeadsTo path own := by
    intro own hown
    rcases hproper with hforeign | ⟨own', hown', hsame⟩
    · exact .inr (hforeign (.inl i) own hown)
    · obtain rfl := Option.some.inj (hown.symm.trans hown')
      exact .inl hsame
  rw [step_saveSolution] at hsave
  cases hsaved : Backend.saveSolution (x.solvers i) path kind x.host with
  | mk result h =>
      rw [hsaved] at hsave
      obtain ⟨hreply, rfl⟩ := Prod.mk.inj hsave
      cases result with
      | error e => cases hreply
      | ok =>
          obtain ⟨bytes, hvalue, hsome, hfile⟩ := CommandSolver.read_of_saved (hx.solvers i) hsaved htarget
          rw [← Program.readReport_congr hprogram] at hvalue
          cases hloaded : CommandSolver.loadSolution path .basic (z.solvers j, z.host) with
          | mk result state =>
              obtain ⟨s', h'⟩ := state
              obtain ⟨rfl, rfl⟩ := Prod.mk.inj ((step_loadSolution hloaded).symm.trans hload)
              constructor
              · intro hok
                cases result with
                | error e => cases hok
                | ok =>
                    rw [seat_solvers_self]
                    exact CommandSolver.solution_of_loaded_or_nil hvalue (hsome.imp hread.trans hread.trans) hloaded
              · intro hleads
                rcases CommandSolver.reply_of_loaded hvalue (hread.trans (hfile hleads)) hloaded with
                  rfl | ⟨fault, hne, rfl⟩
                · exact .inl rfl
                · exact .inr ⟨fault, hne, rfl⟩

/-- **Solutions and their files stay together.** Backends that start out without a solution are asked for one thing after
the other, and everybody keeps away from their files; a solution may also be saved onto its own file, but not onto
another place of it. Then each backend has neither a solution nor a file, or its program reads just this solution from
the file. Solving and loading that fail change neither of the two. What one backend saves, another one of the same
program loads as the same solution, as long as the saved file reads the same. -/
theorem solution_with_file (x : Fleet ι κ) (requests : List (Request ι κ)) (hfresh : x.Fresh) (hrun : x.KeepsToItself)
    (hproper : x.Proper requests) :
    let y := x.after requests
    (∀ i, (y.solvers i).Owns y.host)
      ∧ (∀ i k op e y', (op = .solve ∨ ∃ path kind, op = .loadSolution path kind) →
          y.step (.ask i k op) = (.error e, y') →
            y'.solvers i = y.solvers i
              ∧ ∀ file ∈ (y.solvers i).solutionFile, y.host.files.Untouched y'.host.files file)
      ∧ ∀ (i j : ι) (k l : κ) (path : String) (kind : SolutionKind) (y' z z' : Fleet ι κ) (reply : Except Error (Option Status)),
          (Request.ask i k (.saveSolution path kind)).Proper y → y.step (.ask i k (.saveSolution path kind)) = (.ok none, y') →
          z.host.files.read path = y'.host.files.read path →
          (z.solvers j).program.solverKind = (y.solvers i).program.solverKind →
          z.step (.ask j l (.loadSolution path .basic)) = (reply, z') →
            (reply = .ok none → (z'.solvers j).solution = (y.solvers i).solution)
              ∧ (y'.host.files.LeadsToFile path →
                  reply = .ok none ∨ ∃ fault, fault ≠ .invalidData ∧ reply = .error (.file fault)) := by
  obtain ⟨hsound, hfollows⟩ := hfresh.sound.after hrun hproper
  exact ⟨hsound.solvers, fun i k op e y' hop hstep => hsound.of_error (hfollows.keepsToItself hrun) hop hstep,
    fun i j k l path kind y' z z' reply => hsound.loaded_of_saved⟩

/-- **A backend that is asked to save its solution onto its own file at another place loses the file.** -/
lemma not_owns_of_saved {own path : String} {q r : Place} {n : ℕ} (hown : (x.solvers i).solutionFile = some own)
    (hstands : x.host.files.Stands own q n) (hother : x.host.files.Stands path r n) (hne : q ≠ r) :
    (x.step (.ask i k (.saveSolution path .basic))).1 = .ok none
      ∧ ¬((x.step (.ask i k (.saveSolution path .basic))).2.solvers i).Owns
        (x.step (.ask i k (.saveSolution path .basic))).2.host := by
  obtain ⟨h', hsave, -, hlost⟩ := CommandSolver.not_owns_of_saved hown hstands hother hne
  rw [step_saveSolution, hsave]
  exact ⟨rfl, hlost⟩

/-- Two backends of one program that finds a solution. -/
def pair : Fleet Bool Unit :=
  duo (fun _ => .clp "clp") (Launcher.reporting fun _ _ => Utf8.encode "Optimal\n0 x0 7 1\n")

/-- The pair once one backend has solved the problem. -/
def solvedPair : Fleet Bool Unit := pair.after [.ask false () (.runCached "/p.lp" .cplex)]

/-- The pair once the solution has been saved. -/
def savedPair : Fleet Bool Unit := (solvedPair.step (.ask false () (.saveSolution "/out" .basic))).2

lemma foreign_solvedPair : solvedPair.Foreign "/out" := by
  rintro o p - ⟨q, m, r, -, hfind⟩
  have hnone : solvedPair.host.files.find "/out" = .error .notFound := by decide +kernel
  rw [hnone] at hfind
  cases hfind

/-- A solution is found, saved by one backend, and loaded by the other one. -/
theorem solution_with_file_pair :
    ((savedPair.step (.ask true () (.loadSolution "/out" .basic))).2.solvers true).solution
      = (solvedPair.solvers false).solution := by
  have hproper : pair.Proper [.ask false () (.runCached "/p.lp" .cplex)] := (proper_nil pair).concat trivial
  obtain ⟨-, -, hload⟩ := solution_with_file pair _ (fresh_duo _ _) (Launcher.keepsToItself_reporting _ _) hproper
  rw [← solvedPair] at hload
  have hreplies : (solvedPair.step (.ask false () (.saveSolution "/out" .basic))).1 = .ok none
      ∧ (savedPair.step (.ask true () (.loadSolution "/out" .basic))).1 = .ok none
      ∧ (savedPair.solvers true).program.solverKind = (solvedPair.solvers false).program.solverKind := by
    decide +kernel
  obtain ⟨hsaved, hloaded, hprogram⟩ := hreplies
  have hsave : solvedPair.step (.ask false () (.saveSolution "/out" .basic)) = (.ok none, savedPair) := by
    rw [savedPair, ← hsaved]
  obtain ⟨hsame, -⟩ := hload false true () () "/out" .basic savedPair savedPair _ _ (.inl foreign_solvedPair) hsave rfl
    hprogram Prod.mk.eta.symm
  exact hsame hloaded

/-- The pair with a program that leaves its report at a second place too, once one backend has solved the problem. -/
def linkedPair : Fleet Bool Unit :=
  let launcher : Launcher := fun l fs =>
    let (ending, fs) := pair.host.launcher l fs
    match l.arguments.getLast?.map fs.number with
    | some (.ok n) => (ending, fs.put ["alias"] (.file n))
    | _ => (ending, fs)
  Fleet.after { pair with host := { pair.host with launcher } } [.ask false () (.runCached "/p.lp" .cplex)]

/-- **Saved onto its own file at the second place, the solution loses its file.** -/
theorem not_owns_linkedPair :
    (linkedPair.step (.ask false () (.saveSolution "/alias" .basic))).1 = .ok none
      ∧ ¬((linkedPair.step (.ask false () (.saveSolution "/alias" .basic))).2.solvers false).Owns
        (linkedPair.step (.ask false () (.saveSolution "/alias" .basic))).2.host := by
  have hplaces : (linkedPair.solvers false).solutionFile = some "/tmp/Clp-000000-solution.lp"
      ∧ linkedPair.host.files.Stands "/tmp/Clp-000000-solution.lp" ["tmp", "Clp-000000-solution.lp"] 1
      ∧ linkedPair.host.files.Stands "/alias" ["alias"] 1 := by
    decide +kernel
  obtain ⟨hown, hstands, hother⟩ := hplaces
  exact not_owns_of_saved hown hstands hother (by decide)

end

end Fleet

end LinearProgram
