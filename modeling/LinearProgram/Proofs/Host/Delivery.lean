import LinearProgram.Proofs.Host.Computation

/-!
Operations that leave temporary files alone, and those that come with a new one.

Everything that is kept between two operations stands in temporary files. An operation spares them if each of them
still stands where it stood, with the same content. It delivers a file if it also leaves a new temporary file, at a
place where none of the others has stood. Programs are trusted with their report and their output only.

* `Host.Spares`, `Host.Delivers`: the two kinds of operations.
* `Host.Makes.delivers`, `Host.Delivers.discard`: a temporary file that is made, and one that goes again.
* `Host.Makes.copy`: **a copy to a new temporary file delivers the content of its source.**
* `Launcher.KeepsToItself`: programs that leave alone all temporary files but those that they are given.
* `Launcher.keepsToItself_reporting`: programs that only write their report are among them.
* `Host.spares_and_delivers`: a run of a program that keeps to itself, whatever else it does.
-/

namespace LinearProgram

namespace Host

/-! ### Sparing and delivering -/

/-- A host on which every temporary file still stands, with the same content. -/
structure Spares (h h' : Host) : Prop where
  same : h.SameSurroundings h'
  untouched : ∀ {p}, h.IsTemporary p → h.files.Untouched h'.files p

/-- A host on which there is also a new temporary file with a content, at a place of its own. -/
structure Delivers (h h' : Host) (file : String) (place : Place) (bytes : List UInt8) : Prop extends Spares h h' where
  temporary : h.IsTemporary file
  stands : ∃ m, h'.files.Stands file place m ∧ (h'.files.stored m).bytes = bytes
  elsewhere : ∀ {p q m}, h.IsTemporary p → h.files.Stands p q m → q ≠ place

section Delivery

variable {h h₁ h₂ : Host} {file path : String} {place : Place} {bytes : List UInt8}

lemma Spares.refl (h : Host) : h.Spares h := ⟨.refl h, fun _ => .refl _ _⟩

lemma Spares.trans (hh : h.Spares h₁) (hh' : h₁.Spares h₂) : h.Spares h₂ where
  same := hh.same.trans hh'.same
  untouched hp := (hh.untouched hp).trans (hh'.untouched (hh.same.isTemporary_iff.mpr hp))

/-- Only the files and the surroundings count. -/
lemma Spares.of_files (hsame : h.SameSurroundings h₁) (hfiles : h₁.files = h.files) : h.Spares h₁ where
  same := hsame
  untouched _ := by
    rw [hfiles]
    exact Files.Untouched.refl _ _

lemma Spares.delivers (hh : h.Spares h₁) (hh' : h₁.Delivers h₂ file place bytes) : h.Delivers h₂ file place bytes where
  toSpares := hh.trans hh'.toSpares
  temporary := hh.same.isTemporary_iff.mp hh'.temporary
  stands := hh'.stands
  elsewhere hp hq := hh'.elsewhere (hh.same.isTemporary_iff.mpr hp) (hh.untouched hp hq).1

lemma Delivers.of_files (hh : h.Delivers h₁ file place bytes) (hsame : h₁.SameSurroundings h₂)
    (hfiles : h₂.files = h₁.files) : h.Delivers h₂ file place bytes where
  toSpares := hh.toSpares.trans (.of_files hsame hfiles)
  temporary := hh.temporary
  stands := hfiles ▸ hh.stands
  elsewhere := hh.elsewhere

lemma Delivers.isFile (hh : h.Delivers h₁ file place bytes) : h₁.files.IsFile file :=
  let ⟨_, hstands, _⟩ := hh.stands
  hstands.isFile

lemma Delivers.read (hh : h.Delivers h₁ file place bytes) : h₁.files.read file = .ok bytes := by
  obtain ⟨m, hstands, hbytes⟩ := hh.stands
  rw [hstands.read, hbytes]

/-- What is delivered stands aside from all temporary files that have been there. -/
lemma Delivers.aside (hh : h.Delivers h₁ file place bytes) (hpath : h.IsTemporary path) (hfile : h.files.IsFile path) :
    h₁.files.placeOf file ≠ h₁.files.placeOf path := by
  obtain ⟨m, hstands, -⟩ := hh.stands
  obtain ⟨q, n, hq⟩ := hfile
  rw [hstands.placeOf, (hh.untouched hpath hq).1.placeOf]
  exact (hh.elsewhere hpath hq).symm

lemma Makes.delivers (hmakes : h.Makes h₁ file place) : h.Delivers h₁ file place [] where
  same := hmakes.same
  untouched _ := hmakes.untouched _
  temporary := hmakes.temporary
  stands := ⟨_, hmakes.stands, hmakes.empty⟩
  elsewhere _ hq := hmakes.ne_place hq

/-- A file that is delivered and goes again has not been there. -/
lemma Delivers.discard (hh : h.Delivers h₁ file place bytes) : h.Spares (discard file h₁).2 := by
  refine ⟨hh.same.trans (discard_same file h₁), fun {p} hp q m hq => ?_⟩
  obtain ⟨k, hstands, -⟩ := hh.stands
  have hq₁ := hh.untouched hp hq
  have hclear : h₁.files.Clear file p := hstands.clear fun q' m' hq' => by
    rw [← (hq₁.1.unique hq').1]
    exact hh.elsewhere hp hq
  exact (hh.untouched hp).trans (discard_untouched hclear) hq

/-- What is found at a path is still found there once a temporary file has been made, and elsewhere. -/
lemma Makes.find (hmakes : h.Makes h₁ file place) {q : Place} {node : Node} (hfind : h.files.find path = .ok (q, node)) :
    h₁.files.find path = .ok (q, node) ∧ q ≠ place := by
  constructor
  · rw [hmakes.files]
    exact Files.find_add hmakes.free hfind _
  · rintro rfl
    exact absurd ((Files.findWith_eq_ok_iff.mp hfind).2.symm.trans hmakes.free) (by simp)

/-- What can be read can still be read once a temporary file has been made. -/
lemma Makes.read (hmakes : h.Makes h₁ file place) (hread : h.files.read path = .ok bytes) :
    h₁.files.read path = .ok bytes := by
  refine Files.read_eq_ok_iff.mpr ?_
  rcases Files.read_eq_ok_iff.mp hread with ⟨q, n, hfind, hbytes⟩ | ⟨q, d, hfind, hbytes⟩
  · exact .inl ⟨q, n, (hmakes.find hfind).1, (hmakes.stored n).trans hbytes⟩
  · exact .inr ⟨q, d, (hmakes.find hfind).1, hbytes⟩

/-- **A copy of a file to a new temporary file delivers its content.** -/
lemma Makes.copy_of_found (hmakes : h.Makes h₁ file place) {q : Place} {n : ℕ}
    (hfind : h.files.find path = .ok (q, .file n)) :
    ∃ h₂, Host.copy path file h₁ = (.ok ⟨⟩, h₂) ∧ h.Delivers h₂ file place (h.files.stored n).bytes := by
  obtain ⟨hfind₁, hne⟩ := hmakes.find hfind
  obtain ⟨f, hcopy, hf⟩ := Files.copy_of_found hfind₁ hmakes.stands hne
  refine ⟨_, change_of_ok hcopy, ⟨⟨hmakes.same.launcher, hmakes.same.tempDirectory⟩, fun _ q' m hp => ?_⟩,
    hmakes.temporary, ?_, fun _ hq => hmakes.ne_place hq⟩
  · have hnew : ∀ q'', ¬h₁.files.Stands _ q'' h.files.numbered.size := fun q'' hq'' =>
      hp.numbered.ne ((hmakes.untouched _ hp).1.unique hq'').2
    exact ((hmakes.untouched _).trans (Files.untouched_change hnew)) hp
  · refine ⟨_, Files.stays_change _ _ _ hmakes.stands, ?_⟩
    rw [Files.stored_change_self hmakes.stands.numbered, hf]
    split_ifs with heq
    · rw [heq, ← hmakes.stored, hmakes.empty]
    · exact hmakes.stored n

/-- A copy of anything that can be read delivers its content, or it cannot be made. -/
lemma Makes.copy (hmakes : h.Makes h₁ file place) (hread : h.files.read path = .ok bytes) :
    (∃ h₂, Host.copy path file h₁ = (.ok ⟨⟩, h₂) ∧ h.Delivers h₂ file place bytes)
      ∨ ∃ fault, fault ≠ .invalidData ∧ Host.copy path file h₁ = (.error (.file fault), h₁) := by
  rcases Files.read_eq_ok_iff.mp hread with ⟨q, n, hfind, rfl⟩ | ⟨q, d, hfind, -⟩
  · exact .inl (hmakes.copy_of_found hfind)
  · obtain ⟨hfind₁, hne⟩ := hmakes.find hfind
    have hsame : h₁.files.samePlace path file = false := by
      rw [Files.samePlace, hfind₁, hmakes.stands.find]
      exact decide_eq_false hne
    refine .inr ⟨.notRegular, by simp, change_of_error ?_⟩
    rw [Files.copy, hsame, if_neg Bool.false_ne_true, hfind₁, hmakes.stands.device?]
    rfl

end Delivery

end Host

/-! ### Programs that keep to themselves -/

/-- A program is given two files that stand by themselves: a report, which its last argument names, and an output. -/
structure Launch.IsGiven (l : Launch) (fs : Files) (report : String) (m k : ℕ) : Prop where
  last : l.arguments.getLast? = some report
  report : ∃ q, fs.Stands report q m
  output : ∃ r, fs.Stands l.output r k
  distinct : m ≠ k

/-- Programs that keep to themselves. They leave alone every temporary file but the two that they are given. What is
at the paths of the two afterwards, if anything, is a file, and none of the others; and the two are at different
places. -/
structure Launcher.KeepsToItself (run : Launcher) (temporary : String → Prop) : Prop where
  others : ∀ {l fs report m k p q n}, Launch.IsGiven l fs report m k → temporary p → fs.Stands p q n → n ≠ m → n ≠ k →
    fs.Untouched (run l fs).2 p ∧ (run l fs).2.Clear report p ∧ (run l fs).2.Clear l.output p
  given : ∀ {l fs report m k}, Launch.IsGiven l fs report m k →
    (run l fs).2.Clear l.output report
      ∧ ∀ q node, (run l fs).2.findLink report = .ok (q, node) → ∃ n, (run l fs).2.Stands report q n

/-- A program that writes a report, and nothing else. -/
def Launcher.reporting (report : Launch → Files → List UInt8) : Launcher := fun l fs =>
  match l.arguments.getLast? with
  | none => (.ok (.exited 1), fs)
  | some path =>
    match fs.write path (report l fs) with
    | .ok fs' => (.ok (.exited 0), fs')
    | .error _ => (.ok (.exited 1), fs)

lemma Launch.IsGiven.reporting {l : Launch} {fs : Files} {path : String} {m k : ℕ} (hgiven : l.IsGiven fs path m k)
    (report : Launch → Files → List UInt8) :
    Launcher.reporting report l fs = (.ok (.exited 0), fs.fill m (report l fs)) := by
  obtain ⟨q, hstands⟩ := hgiven.report
  have hwrite : fs.write path (report l fs) = .ok (fs.fill m (report l fs)) := by
    rw [Files.write, hstands.device?, hstands.openWritten]
    rfl
  unfold Launcher.reporting
  rw [hgiven.last]
  simp only [hwrite]

/-- **A program that only writes its report keeps to itself.** -/
lemma Launcher.keepsToItself_reporting (report : Launch → Files → List UInt8) (temporary : String → Prop) :
    (Launcher.reporting report).KeepsToItself temporary := by
  have hstays : ∀ {fs : Files} {path q n m bytes}, fs.Stands path q n → (fs.fill m bytes).Stands path q n := fun hstands =>
    Files.stays_change _ _ _ hstands
  constructor
  · intro l fs path m k p q n hgiven _ hstands hm hk
    rw [hgiven.reporting report]
    obtain ⟨r, hreport⟩ := hgiven.report
    obtain ⟨r', houtput⟩ := hgiven.output
    refine ⟨Files.untouched_change fun q' hq' => hm (hstands.unique hq').2, ?_, ?_⟩
    · refine (hstays hreport).clear fun q' m' hq' => ?_
      rw [(hstays hstands).unique hq' |>.1.symm]
      exact hstands.ne_place hreport hm
    · refine (hstays houtput).clear fun q' m' hq' => ?_
      rw [(hstays hstands).unique hq' |>.1.symm]
      exact hstands.ne_place houtput hk
  · intro l fs path m k hgiven
    rw [hgiven.reporting report]
    obtain ⟨r, hreport⟩ := hgiven.report
    obtain ⟨r', houtput⟩ := hgiven.output
    refine ⟨(hstays houtput).clear fun q' m' hq' => ?_, fun q node hfound => ?_⟩
    · rw [(hstays hreport).unique hq' |>.1.symm]
      exact hreport.ne_place houtput hgiven.distinct
    · obtain ⟨rfl, -⟩ := Prod.mk.inj (Except.ok.inj ((hstays hreport).findLink.symm.trans hfound))
      exact ⟨m, hstays hreport⟩

namespace Host

section Programs

variable {h h₁ h₂ h₃ : Host} {report : String} {q r : Place} {l : Launch}

/-- A program is given the two temporary files that have been made for it. -/
lemma Makes.isGiven (hreport : h.Makes h₁ report q) (houtput : h₁.Makes h₂ l.output r)
    (hlast : l.arguments.getLast? = some report) :
    l.IsGiven h₂.files report h.files.numbered.size h₁.files.numbered.size where
  last := hlast
  report := ⟨q, (houtput.untouched _ hreport.stands).1⟩
  output := ⟨r, houtput.stands⟩
  distinct := hreport.stands.numbered.ne

/-- **Once a program that keeps to itself has ended** and its output is gone, all other temporary files are as before.
What can be read from its report is what the program has left there, and this is what the run delivers. -/
lemma spares_and_delivers (hrun : h.launcher.KeepsToItself h.IsTemporary) (hreport : h.Makes h₁ report q)
    (houtput : h₁.Makes h₂ l.output r) (hlast : l.arguments.getLast? = some report) (hsame : h₂.SameSurroundings h₃)
    (hfiles : h₃.files = (h.launcher l h₂.files).2) :
    h.Spares (discard report (discard l.output h₃).2).2
      ∧ ∀ bytes, (discard l.output h₃).2.files.read report = .ok bytes →
          (h.launcher l h₂.files).2.read report = .ok bytes
            ∧ ∃ place, h.Delivers (discard l.output h₃).2 report place bytes := by
  have hgiven := hreport.isGiven houtput hlast
  obtain ⟨hclear, hstands⟩ := hrun.given hgiven
  rw [← hfiles] at hclear hstands
  have hall : h.SameSurroundings (discard l.output h₃).2 :=
    ((hreport.same.trans houtput.same).trans hsame).trans (discard_same _ _)
  have hothers : ∀ {p q' n}, h.IsTemporary p → h.files.Stands p q' n →
      h₃.files.Stands p q' n ∧ h.files.Untouched h₃.files p ∧ h₃.files.Clear report p ∧ h₃.files.Clear l.output p := by
    intro p q' n hp hstands
    have hp₂ := (hreport.untouched p).trans (houtput.untouched p)
    obtain ⟨huntouched, hrest⟩ := hrun.others hgiven hp (hp₂ hstands).1 hstands.numbered.ne
      (hstands.numbered.trans hreport.stands.numbered).ne
    rw [← hfiles] at huntouched hrest
    exact ⟨(huntouched (hp₂ hstands).1).1, hp₂.trans huntouched, hrest⟩
  refine ⟨⟨hall.trans (discard_same _ _), fun hp q' n hq' => ?_⟩, fun bytes hread => ?_⟩
  · obtain ⟨-, huntouched, hreport', houtput'⟩ := hothers hp hq'
    exact ((huntouched.trans (discard_untouched houtput')).trans
      (discard_untouched (clear_discard hreport' hclear))) hq'
  · obtain ⟨q', node, hfound⟩ := Files.exists_findLink_of_read hread
    obtain ⟨n, hn⟩ := hstands q' node (findLink_of_discard hclear hfound)
    obtain ⟨hn', hbytes⟩ := discard_untouched hclear hn
    have heq : (h₃.files.stored n).bytes = bytes := hbytes.symm.trans (Except.ok.inj (hn'.read.symm.trans hread))
    refine ⟨by rw [← hfiles, hn.read, heq], q', ⟨hall, fun hp q'' m hq'' => ?_⟩, hreport.temporary,
      ⟨n, hn', hbytes.trans heq⟩, fun hp hq'' => ?_⟩
    · obtain ⟨-, huntouched, -, houtput'⟩ := hothers hp hq''
      exact (huntouched.trans (discard_untouched houtput')) hq''
    · obtain ⟨hp₃, -, hreport', -⟩ := hothers hp hq''
      rintro rfl
      exact (hreport' hn.findLink).2 _ hp₃

end Programs

end Host

end LinearProgram
