import LinearProgram.Proofs.Solver.Answers
import LinearProgram.Proofs.Solver.Fleet

/-!
Different programs that share a cache.

A cache knows nothing of the program that has written a report. An entry holds the status that the run which made it
has told, and this is the status that the program of that run reads in the report. Another program answers with the
same status, but reads the report in its own way, and may find another status in it. So the status of a run is that of
the solution which it leaves unless a different program has made the entry, and then it is that of the solution which
this other program reads.

* `Fleet.Tells`: a program reads the status of an entry in the file of the entry.
* `Fleet.MadeBy`: a backend has made an entry, in one of some requests.
* `Fleet.tells_after`: **every entry has been made by a run whose program reads its status**, as long as solutions are
  registered by runs only.
* `Fleet.status_of_runCached`: **the status of a run and that of its solution.**
* `Fleet.status_ne_mixed`: two programs that share a cache and disagree.
-/

namespace LinearProgram

namespace Fleet

open CommandSolver (keepsToItself_of_same)

/-- A program reads in the file of an entry a solution with the status of the entry. -/
def Tells (program : Program) (h : Host) (e : Digest × KnownSolution) : Prop :=
  ∃ bytes solution, h.files.read e.2.file = .ok bytes ∧ (program.readReport bytes).value = .ok solution
    ∧ solution.status = e.2.status

/-- Solutions are registered by runs only. -/
def OnlyRuns {ι κ : Type} (requests : List (Request ι κ)) : Prop :=
  ∀ i k path status, .ask i k (.registerSolution path status) ∉ requests

section

variable {ι κ : Type} [DecidableEq ι] [DecidableEq κ] {x x' : Fleet ι κ} {i j : ι} {k : κ} {e : Digest × KnownSolution}
  {requests : List (Request ι κ)} {path : String} {format : ProblemFormat} {status : Status}

/-- One of some requests has been a run of a backend which has made an entry of a cache, with the status that it has
told. -/
def MadeBy (x : Fleet ι κ) (requests : List (Request ι κ)) (k : κ) (e : Digest × KnownSolution) (j : ι) : Prop :=
  ∃ before path format later, requests = before ++ .ask j k (.runCached path format) :: later
    ∧ e ∉ ((x.after before).caches k).entries
    ∧ ((x.after before).step (.ask j k (.runCached path format))).1 = .ok (some e.2.status)
    ∧ e ∈ (((x.after before).step (.ask j k (.runCached path format))).2.caches k).entries

lemma MadeBy.append (h : x.MadeBy requests k e j) (later : List (Request ι κ)) : x.MadeBy (requests ++ later) k e j := by
  obtain ⟨before, path, format, rest, rfl, hmade⟩ := h
  exact ⟨before, path, format, rest ++ later, by simp, hmade⟩

/-! ### Entries and who has made them -/

/-- **An entry that a run makes** has the status that the run tells, and the program reads it in its file. -/
lemma Sound.tells_of_new_entry (hx : x.Sound) (hrun : x.KeepsToItself) (he : e ∉ (x.caches k).entries)
    (he' : e ∈ ((x.step (.ask j k (.runCached path format))).2.caches k).entries) :
    (x.step (.ask j k (.runCached path format))).1 = .ok (some e.2.status)
      ∧ Tells (x.solvers j).program (x.step (.ask j k (.runCached path format))).2.host e := by
  rw [step_runCached] at he' ⊢
  rw [seat_caches_self] at he'
  have hold : (Backend.runCached path format (x.bench j k)).2.cache ≠ x.caches k := by
    intro heq
    rw [heq] at he'
    exact he he'
  rcases Bench.runCached_cases (t := x.bench j k) hrun (hx.bench j k) path format with ⟨fault, -, hrunCached⟩ | ⟨content, -, hanswer⟩
  · rw [hrunCached] at hold
    exact absurd rfl hold
  · rcases hanswer with ⟨known, bytes, u, -, -, -, -, hrunCached, hcache⟩ | ⟨t', v, -, -, -, hadvance, hcache, hrunCached⟩
    · rw [hrunCached] at hold
      exact absurd hcache hold
    · rw [hrunCached] at he' hold ⊢
      have hrun' : v.host.launcher.KeepsToItself v.host.IsTemporary := keepsToItself_of_same hadvance.same hrun
      rcases Bench.solveAndRegister_cases hrun' hadvance.owns path with ⟨e', u, -, hfailed, hcache'⟩ |
          ⟨status, u, -, hstatus, -, ⟨fault, w, -, hfailed, hcache'⟩ |
            ⟨bytes, file, w, content', h, -, -, hvalue, hregistered, hr⟩⟩
      · rw [hfailed] at hold
        exact absurd (hcache'.trans hcache) hold
      · rw [hfailed] at hold
        exact absurd (hcache'.trans hcache) hold
      · rw [hregistered] at he' ⊢
        have hentry : e = (.ofBytes content', ⟨file, status, .basic⟩) := by
          rcases Cache.mem_entries_insert he' with heq | ⟨hmem, -⟩
          · exact heq
          · rw [hcache] at hmem
            exact absurd hmem he
        subst hentry
        refine ⟨rfl, bytes, u.backend.solution, hr.read, ?_, hstatus.symm⟩
        rwa [hadvance.program] at hvalue

/-- **Every entry has been made by a run whose program reads its status**, as long as solutions are registered by runs
only. -/
lemma tells_after (hfresh : x.Fresh) (hrun : x.KeepsToItself) (hproper : x.Proper requests) (hruns : OnlyRuns requests)
    (he : e ∈ ((x.after requests).caches k).entries) :
    ∃ j, x.MadeBy requests k e j ∧ Tells (x.solvers j).program (x.after requests).host e := by
  induction requests using List.reverseRecOn with
  | nil =>
      change e ∈ (x.caches k).entries at he
      rw [hfresh.caches k] at he
      cases he
  | append_singleton requests r ih =>
      have hruns' : OnlyRuns requests := fun i l path status hmem => hruns i l path status (List.mem_append_left _ hmem)
      obtain ⟨hsound, hfollows⟩ := hfresh.sound.after hrun hproper.of_append
      have hrun' := hfollows.keepsToItself hrun
      rw [after_concat] at he ⊢
      by_cases hold : e ∈ ((x.after requests).caches k).entries
      · -- the file of an entry that stays still reads the same
        obtain ⟨j, hmade, bytes, solution, hread, hvalue⟩ := ih hproper.of_append hruns' hold
        have huntouched := hsound.untouched_entry hrun' hproper.last hold he
        have hfile := (hsound.file (o := .inr k) ⟨e, hold, rfl⟩).2
        exact ⟨j, hmade.append [r], bytes, solution, (huntouched.read hfile).trans hread, hvalue⟩
      · obtain ⟨j, op, hop, rfl⟩ := exists_of_new_entry hold he
        cases op with
        | registerSolution path status => exact absurd (List.mem_append_right _ List.mem_cons_self) (hruns j k path status)
        | runCached path format =>
            obtain ⟨hreply, htells⟩ := hsound.tells_of_new_entry hrun' hold he
            rw [hfollows.program j] at htells
            exact ⟨j, ⟨requests, path, format, [], rfl, hold, hreply, he⟩, htells⟩
        | _ => exact absurd hop id

/-! ### The status of a run -/

/-- **The status of a run and that of its solution.** Backends share caches, and solutions are registered by runs only.
A run that answers with a status leaves a solution with this status, unless the answer comes from an entry that a
different program has made. The status is then that of the entry, which is the one that the program of its run reads in
the stored report, and the solution is what the own program reads there. -/
theorem status_of_runCached (x : Fleet ι κ) (requests : List (Request ι κ)) (hfresh : x.Fresh) (hrun : x.KeepsToItself)
    (hproper : x.Proper requests) (hruns : OnlyRuns requests) (i : ι) (k : κ) (path : String) (format : ProblemFormat)
    (status : Status) (x' : Fleet ι κ)
    (hstep : (x.after requests).step (.ask i k (.runCached path format)) = (.ok (some status), x')) :
    (x'.solvers i).solution.status = status
      ∨ ∃ j e bytes solution, x.MadeBy requests k e j ∧ (x.solvers j).program.solverKind ≠ (x.solvers i).program.solverKind
          ∧ e ∈ ((x.after requests).caches k).entries ∧ e.2.status = status
          ∧ (x.after requests).host.files.read e.2.file = .ok bytes
          ∧ ((x.solvers j).program.readReport bytes).value = .ok solution ∧ solution.status = status
          ∧ ((x.solvers i).program.readReport bytes).value = .ok (x'.solvers i).solution := by
  obtain ⟨hsound, hfollows⟩ := hfresh.sound.after hrun hproper
  have hrun' := hfollows.keepsToItself hrun
  rw [step_runCached] at hstep
  obtain ⟨hreply, rfl⟩ := Prod.mk.inj hstep
  rw [seat_solvers_self]
  rcases Bench.runCached_cases (t := (x.after requests).bench i k) hrun' (hsound.bench i k) path format with
    ⟨fault, -, hrunCached⟩ | ⟨content, -, hanswer⟩
  · rw [hrunCached] at hreply
    cases hreply
  · rcases hanswer with ⟨known, bytes, u, hentry, -, hread, hvalue, hrunCached, -⟩ |
      ⟨t', v, -, -, -, hadvance, -, hrunCached⟩
    · rw [hrunCached] at hreply ⊢
      obtain rfl : known.status = status := Option.some.inj (Except.ok.inj hreply)
      have hmem : (Digest.ofBytes content, known) ∈ ((x.after requests).caches k).entries := Cache.mem_of_get? hentry
      obtain ⟨j, hmade, bytes', solution, hread', hvalue', hstatus⟩ := tells_after hfresh hrun hproper hruns hmem
      obtain rfl := Except.ok.inj (hread'.symm.trans hread)
      have hprogram : ((x.solvers i).program.readReport bytes').value = .ok u.backend.solution := by
        rw [← hfollows.program i]
        exact hvalue
      by_cases hkind : (x.solvers j).program.solverKind = (x.solvers i).program.solverKind
      · left
        rw [Program.readReport_congr hkind] at hvalue'
        obtain rfl := Except.ok.inj (hprogram.symm.trans hvalue')
        exact hstatus
      · exact .inr ⟨j, _, bytes', solution, hmade, hkind, hmem, rfl, hread', hvalue', hstatus, hprogram⟩
    · left
      rw [hrunCached] at hreply ⊢
      have hrun'' : v.host.launcher.KeepsToItself v.host.IsTemporary := keepsToItself_of_same hadvance.same hrun'
      rcases Bench.solveAndRegister_cases hrun'' hadvance.owns path with ⟨e', u, -, hfailed, -⟩ |
          ⟨status', u, -, hstatus, -, ⟨fault, w, -, hfailed, -⟩ |
            ⟨bytes, file, w, content', h, -, -, -, hregistered, -⟩⟩
      · rw [hfailed] at hreply
        cases hreply
      · rw [hfailed] at hreply
        cases hreply
      · rw [hregistered] at hreply ⊢
        obtain rfl : status' = status := Option.some.inj (Except.ok.inj hreply)
        exact hstatus.symm

end

/-- A backend for cbc and one for clp. Every program says that it has been stopped. -/
def mixed : Fleet Bool Unit :=
  duo (fun isCbc => if isCbc then .cbc "cbc" none none else .clp "clp")
    (Launcher.reporting fun _ _ => Utf8.encode "Stopped on time - objective value 5\n")

/-- The two backends once cbc has run. -/
def ranMixed : Fleet Bool Unit := mixed.after [.ask true () (.runCached "/p.lp" .cplex)]

/-- **The status of a run need not be that of its solution.** What cbc takes for a solution that has been found has no
known status for clp. -/
theorem status_ne_mixed :
    (ranMixed.step (.ask false () (.runCached "/p.lp" .cplex))).1 = .ok (some .solutionFound)
      ∧ ((ranMixed.step (.ask false () (.runCached "/p.lp" .cplex))).2.solvers false).solution.status = .unknown := by
  decide +kernel

/-- The answer for clp comes from an entry that cbc has made. -/
theorem status_of_runCached_mixed :
    ∃ j e, mixed.MadeBy [.ask true () (.runCached "/p.lp" .cplex)] () e j
      ∧ (mixed.solvers j).program.solverKind ≠ .clp ∧ e.2.status = .solutionFound := by
  have hproper : mixed.Proper [.ask true () (.runCached "/p.lp" .cplex)] := (proper_nil mixed).concat trivial
  have hruns : OnlyRuns [(.ask true () (.runCached "/p.lp" .cplex) : Request Bool Unit)] := by
    intro i k path status hmem
    cases List.mem_singleton.mp hmem
  have hanswer : (ranMixed.step (.ask false () (.runCached "/p.lp" .cplex))).1 = .ok (some .solutionFound)
      ∧ ((ranMixed.step (.ask false () (.runCached "/p.lp" .cplex))).2.solvers false).solution.status ≠ .solutionFound := by
    decide +kernel
  obtain ⟨hreply, hsolution⟩ := hanswer
  have hstep : ranMixed.step (.ask false () (.runCached "/p.lp" .cplex))
      = (.ok (some .solutionFound), (ranMixed.step (.ask false () (.runCached "/p.lp" .cplex))).2) := by
    rw [← hreply]
  rcases status_of_runCached mixed _ (fresh_duo _ _)
      (Launcher.keepsToItself_reporting _ _) hproper hruns false () "/p.lp" .cplex .solutionFound _ hstep with
    hsame | ⟨j, e, -, -, hmade, hkind, -, hstatus, -⟩
  · exact absurd hsame hsolution
  · exact ⟨j, e, hmade, hkind, hstatus⟩

end Fleet

end LinearProgram
