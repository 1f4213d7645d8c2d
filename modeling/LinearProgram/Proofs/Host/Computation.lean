import LinearProgram.Host.Basic
import LinearProgram.Proofs.Host.Faults
import LinearProgram.Proofs.Host.Store

/-!
Computations that may fail, by what they make of a state.

What a computation has done before a failure stays done, so each is followed from its first state to its last one in
both cases.

* `bind_apply`, `bind_eq_ok_iff`, `bind_eq_error_iff`: computations one after the other.
* `Host.read_of_ok`, `Host.change_of_ok`, `Host.discardOnError_eq_error_iff` and their like: the operations of a host,
  by the host that they leave.
* `Host.IsTemporary`: the paths that temporary files can have.
* `Host.Makes`: what is known of a host on which a temporary file has been made; `Host.makes_of_makeTemporary`.
* `Host.discard_untouched`: **the end of a temporary file leaves alone what it is clear of**; `Host.not_holds_discard`:
  the file itself is gone.
-/

namespace LinearProgram

/-! ### One after the other -/

section Computations

variable {σ α β : Type} {s t : σ}

lemma bind_apply (x : ExceptT Error (StateM σ) α) (f : α → ExceptT Error (StateM σ) β) (s : σ) :
    (x >>= f) s = match x s with
      | (.ok a, t) => f a t
      | (.error e, t) => (.error e, t) := by
  change (match x s with | (result, t) => ExceptT.bindCont f result t) = _
  rcases x s with ⟨_ | _, _⟩ <;> rfl

lemma bind_apply_ok {x : ExceptT Error (StateM σ) α} (f : α → ExceptT Error (StateM σ) β) {a : α}
    (h : x s = (.ok a, t)) : (x >>= f) s = f a t := by
  rw [bind_apply, h]

lemma bind_apply_error {x : ExceptT Error (StateM σ) α} (f : α → ExceptT Error (StateM σ) β) {e : Error}
    (h : x s = (.error e, t)) : (x >>= f) s = (.error e, t) := by
  rw [bind_apply, h]

/-- Two computations succeed one after the other if each of them does. -/
lemma bind_eq_ok_iff {x : ExceptT Error (StateM σ) α} {f : α → ExceptT Error (StateM σ) β} {b : β} :
    (x >>= f) s = (.ok b, t) ↔ ∃ a u, x s = (.ok a, u) ∧ f a u = (.ok b, t) := by
  rw [bind_apply]
  rcases x s with ⟨e | a, u⟩
  · constructor
    · intro h
      cases h
    · rintro ⟨_, _, h, _⟩
      cases h
  · constructor
    · exact fun h => ⟨a, u, rfl, h⟩
    · rintro ⟨_, _, h, hf⟩
      obtain ⟨ha, rfl⟩ := Prod.mk.inj h
      obtain rfl := Except.ok.inj ha
      exact hf

/-- Two computations fail one after the other if the first one does, or the second one behind it. -/
lemma bind_eq_error_iff {x : ExceptT Error (StateM σ) α} {f : α → ExceptT Error (StateM σ) β} {e : Error} :
    (x >>= f) s = (.error e, t) ↔ x s = (.error e, t) ∨ ∃ a u, x s = (.ok a, u) ∧ f a u = (.error e, t) := by
  rw [bind_apply]
  rcases x s with ⟨e' | a, u⟩
  · constructor
    · intro h
      obtain ⟨he, rfl⟩ := Prod.mk.inj h
      obtain rfl := Except.error.inj he
      exact .inl rfl
    · rintro (h | ⟨_, _, h, _⟩)
      · obtain ⟨he, rfl⟩ := Prod.mk.inj h
        obtain rfl := Except.error.inj he
        rfl
      · cases h
  · constructor
    · exact fun h => .inr ⟨a, u, rfl, h⟩
    · rintro (h | ⟨_, _, h, hf⟩)
      · cases h
      · obtain ⟨ha, rfl⟩ := Prod.mk.inj h
        obtain rfl := Except.ok.inj ha
        exact hf

lemma get_apply (s : σ) : (get : ExceptT Error (StateM σ) σ) s = (.ok s, s) := rfl

lemma throw_apply (e : Error) (s : σ) : (throw e : ExceptT Error (StateM σ) α) s = (.error e, s) := rfl

end Computations

namespace Host

/-! ### Operations of a host -/

section Operations

variable {α : Type} {h h' h'' : Host} {path : String}

lemma note_apply (entries : List Entry) (h : Host) :
    note entries h = (.ok ⟨⟩, { h with journal := h.journal ++ entries }) := rfl

lemma read_of_ok {bytes : List UInt8} (hread : h.files.read path = .ok bytes) : read path h = (.ok bytes, h) := by
  rw [read, look, bind_apply_ok _ (get_apply h), hread]
  rfl

lemma read_of_error {fault : FileFault} (hread : h.files.read path = .error fault) :
    read path h = (.error (.file fault), h) := by
  rw [read, look, bind_apply_ok _ (get_apply h), hread]
  rfl

lemma change_of_ok {f : Files → Except FileFault Files} {files : Files} (hf : f h.files = .ok files) :
    change f h = (.ok ⟨⟩, { h with files }) := by
  rw [change, bind_apply_ok _ (get_apply h), hf]
  rfl

lemma change_of_error {f : Files → Except FileFault Files} {fault : FileFault} (hf : f h.files = .error fault) :
    change f h = (.error (.file fault), h) := by
  rw [change, bind_apply_ok _ (get_apply h), hf]
  rfl

lemma discardOnError_of_ok {act : HostM α} {a : α} (path : String) (hact : act h = (.ok a, h')) :
    discardOnError path act h = (.ok a, h') := by
  rw [discardOnError, hact]

lemma discardOnError_of_error {act : HostM α} {e : Error} (path : String) (hact : act h = (.error e, h')) :
    discardOnError path act h = (.error e, (discard path h').2) := by
  rw [discardOnError, hact]

lemma discardOnError_eq_error_iff {act : HostM α} {e : Error} :
    discardOnError path act h = (.error e, h') ↔ ∃ h'', act h = (.error e, h'') ∧ (discard path h'').2 = h' := by
  rw [discardOnError]
  rcases act h with ⟨_ | _, h''⟩
  · constructor
    · intro heq
      obtain ⟨he, hh⟩ := Prod.mk.inj heq
      exact ⟨h'', Prod.ext he rfl, hh⟩
    · rintro ⟨g, hg, hh⟩
      obtain ⟨he, rfl⟩ := Prod.mk.inj hg
      exact Prod.ext he hh
  · constructor
    · intro h
      cases h
    · rintro ⟨_, h, _⟩
      cases h

/-- A report is read with a word in the journal if it is refused. -/
lemma logged_apply (l : Logged (Except Error α)) (h : Host) :
    logged l h = (l.value, { h with journal := h.journal ++ l.entries }) := by
  rw [logged, bind_apply_ok _ (note_apply l.entries h)]
  cases l.value <;> rfl

/-! ### Surroundings -/

/-- A path that a temporary file of a host can have. -/
def IsTemporary (h : Host) (path : String) : Prop := ∃ t : TempName, path = h.inTempDirectory t.text

/-- Two hosts with the same programs and the same place for temporary files. -/
structure SameSurroundings (h h' : Host) : Prop where
  launcher : h'.launcher = h.launcher
  tempDirectory : h'.tempDirectory = h.tempDirectory

lemma SameSurroundings.refl (h : Host) : h.SameSurroundings h := ⟨rfl, rfl⟩

lemma SameSurroundings.trans (hh : h.SameSurroundings h') (hh' : h'.SameSurroundings h'') :
    h.SameSurroundings h'' :=
  ⟨hh'.launcher.trans hh.launcher, hh'.tempDirectory.trans hh.tempDirectory⟩

lemma SameSurroundings.isTemporary_iff (hh : h.SameSurroundings h') : h'.IsTemporary path ↔ h.IsTemporary path := by
  simp only [IsTemporary, inTempDirectory, hh.tempDirectory]

lemma copy_same (source target : String) (h : Host) : h.SameSurroundings (copy source target h).2 := by
  cases hcopy : h.files.copy source target with
  | error fault =>
      rw [copy, change_of_error hcopy]
      exact .refl h
  | ok files =>
      rw [copy, change_of_ok hcopy]
      exact ⟨rfl, rfl⟩

lemma copy_stays (source target : String) (h : Host) (path : String) :
    h.files.Stays (copy source target h).2.files path := by
  cases hcopy : h.files.copy source target with
  | error fault =>
      rw [copy, change_of_error hcopy]
      exact fun _ _ hstands => hstands
  | ok files =>
      rw [copy, change_of_ok hcopy]
      exact Files.stays_copy hcopy path

/-- A copy leaves alone every file but its target, and also that one if it is copied onto its own place. -/
lemma copy_untouched {source target : String}
    (htarget : h.files.samePlace source target = true ∨ ¬h.files.LeadsTo target path) :
    h.files.Untouched (copy source target h).2.files path := by
  cases hcopy : h.files.copy source target with
  | error fault =>
      rw [copy, change_of_error hcopy]
      exact Files.Untouched.refl _ _
  | ok files =>
      rw [copy, change_of_ok hcopy]
      exact Files.untouched_copy hcopy htarget

/-! ### Temporary files that are made -/

lemma freeTemp?_eq_some {isFree : ℕ → Bool} {tries n m : ℕ} (h : freeTemp? isFree tries n = some m) :
    isFree m = true := by
  induction tries generalizing n with
  | zero => cases h
  | succ tries ih =>
      rw [freeTemp?] at h
      split_ifs at h with hn
      · obtain rfl := Option.some.inj h
        exact hn
      · exact ih h

/-- A host on which a new empty file stands at a path. -/
structure Makes (h h' : Host) (path : String) (place : Place) : Prop where
  temporary : h.IsTemporary path
  located : h.files.locateWith false path = .ok place
  free : h.files.node? place = none
  files : h'.files = h.files.add place ⟨[], false⟩
  same : h.SameSurroundings h'

lemma Makes.stands {place : Place} (hmakes : h.Makes h' path place) :
    h'.files.Stands path place h.files.numbered.size := by
  rw [hmakes.files]
  exact Files.stands_add hmakes.located hmakes.free _

lemma Makes.empty {place : Place} (hmakes : h.Makes h' path place) :
    (h'.files.stored h.files.numbered.size).bytes = [] := by
  rw [hmakes.files, Files.stored_add_self]

/-- Every number stands for the same content as before, since a number that was out of use stood for none. -/
lemma Makes.stored {place : Place} (hmakes : h.Makes h' path place) (n : ℕ) :
    (h'.files.stored n).bytes = (h.files.stored n).bytes := by
  rw [hmakes.files]
  simp only [Files.stored, Files.add, Array.getElem?_push]
  split_ifs with hn
  · simp [hn]
  · rfl

lemma Makes.untouched {place : Place} (hmakes : h.Makes h' path place) (other : String) :
    h.files.Untouched h'.files other := by
  rw [hmakes.files]
  exact Files.untouched_add hmakes.free _ _

/-- A new file has a place of its own. -/
lemma Makes.ne_place {place q : Place} {other : String} {number : ℕ} (hmakes : h.Makes h' path place)
    (hother : h.files.Stands other q number) : q ≠ place := by
  rintro rfl
  exact absurd (hmakes.free.symm.trans hother.node) (by simp)

/-- **A temporary file is made where nothing was.** If it cannot be made, nothing has changed. -/
lemma makes_of_makeTemporary (before after : String) (h : Host) :
    (∃ path h' place, makeTemporary before after h = (.ok path, h') ∧ h.Makes h' path place)
      ∨ ∃ fault, fault ≠ .invalidData ∧ makeTemporary before after h = (.error (.file fault), h) := by
  rw [makeTemporary, bind_apply_ok _ (get_apply h)]
  simp only
  cases hfree : freeTemp? (fun n => !h.files.holds (h.inTempDirectory (TempName.mk before n after).text)) tempTries
      h.nextTemp with
  | none => exact .inr ⟨.alreadyExists, by simp, rfl⟩
  | some n =>
      have hholds := freeTemp?_eq_some hfree
      rw [Bool.not_eq_true'] at hholds
      cases hwrite : h.files.write (h.inTempDirectory (TempName.mk before n after).text) [] with
      | error fault =>
          refine .inr ⟨fault, ?_, bind_apply_error _ (change_of_error hwrite)⟩
          rintro rfl
          exact Files.write_ne_invalidData hwrite
      | ok files =>
          obtain ⟨place, hlocate, hnone, rfl⟩ := Files.eq_add_of_write hholds hwrite
          exact .inl ⟨_, _, place, bind_apply_ok _ (change_of_ok hwrite), ⟨_, rfl⟩, hlocate, hnone, rfl, rfl, rfl⟩

/-! ### Temporary files that go -/

lemma discard_apply (path : String) (h : Host) :
    discard path h = ((), match h.files.remove path with
      | .ok files => { h with files }
      | .error _ => h) := rfl

lemma discard_same (path : String) (h : Host) : h.SameSurroundings (discard path h).2 := by
  rw [discard_apply]
  split <;> exact ⟨rfl, rfl⟩

/-- **The end of a temporary file leaves alone what it is clear of.** -/
lemma discard_untouched {other : String} (hclear : h.files.Clear path other) :
    h.files.Untouched (discard path h).2.files other := by
  rw [discard_apply]
  cases hremove : h.files.remove path with
  | error fault => exact Files.Untouched.refl _ _
  | ok files => exact Files.untouched_remove hclear hremove

lemma discard_of_stands {place : Place} {number : ℕ} (hstands : h.files.Stands path place number) :
    (discard path h).2.files = h.files.erase place := by
  rw [discard_apply, hstands.remove]

/-- **A temporary file that is removed is gone.** -/
lemma not_holds_discard (hfile : h.files.IsFile path) : (discard path h).2.files.holds path = false := by
  obtain ⟨place, number, hstands⟩ := hfile
  rw [discard_of_stands hstands]
  exact hstands.not_holds_erase

/-- What is gone does not come back when a temporary file goes. -/
lemma not_holds_of_discard {other : String} (hfile : h.files.IsFile path) (hgone : h.files.holds other = false) :
    (discard path h).2.files.holds other = false := by
  obtain ⟨place, number, hstands⟩ := hfile
  rw [discard_of_stands hstands]
  exact hstands.not_holds_of_erase hgone

/-- Where nothing is that could be removed, nothing is removed. -/
lemma discard_files (path : String) (h : Host) :
    (discard path h).2.files = h.files ∨ h.files.remove path = .ok (discard path h).2.files := by
  rw [discard_apply]
  cases h.files.remove path with
  | error fault => exact .inl rfl
  | ok files => exact .inr rfl

/-- What is clear of a file stays so when another temporary file goes. -/
lemma clear_discard {other third : String} (h : h'.files.Clear path other) (hclear : h'.files.Clear third path) :
    (discard third h').2.files.Clear path other := by
  rcases discard_files third h' with hsame | hremove
  · rwa [hsame]
  · exact h.remove hclear hremove

lemma findLink_of_discard {other : String} {found : Place × Node} (hclear : h.files.Clear path other)
    (hfound : (discard path h).2.files.findLink other = .ok found) : h.files.findLink other = .ok found := by
  rcases discard_files path h with hsame | hremove
  · rwa [hsame] at hfound
  · exact Files.findLink_of_remove hclear hremove hfound

end Operations

end Host

end LinearProgram
