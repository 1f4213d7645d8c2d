import LinearProgram.Proofs.Host.Walk

/-!
Files that stand by themselves, and what leaves them alone.

A file stands at a path if the path leads to it without a link at its end. What happens elsewhere in the store leaves
it alone: a new file at a free place, another content of another file, the end of another file.

* `Files.node?_put_of_ne`, `Files.node?_erase_of_ne`, `Files.stored_change_of_ne`: changes of a store, place by place
  and file by file.
* `Files.Stands`: a file stands at a path, as a number of the store, at a place.
* `Files.Untouched`: whatever stands at a path in one store stands there in another one, with the same content.
* `Files.Stays`: whatever stands at a path in one store stands there in another one, whatever its content.
* `Files.Clear`: what stands at one path, if anything, is a file, and not the one at another path.
* `Files.untouched_add`, `Files.untouched_change`, `Files.untouched_erase`, `Files.untouched_remove`: **what happens
  elsewhere leaves a file alone.**
* `Files.Stands.not_holds_erase`: where a file has been removed, nothing is left.
* `Files.eq_add_of_write`: a file that is made where nothing was.
* `Files.copy_cases`: what a copy does. It has the content of its source (`Files.copy_of_found`, `Files.read_of_copy`), and
  leaves alone every file but its target (`Files.untouched_copy`), which stays where it is (`Files.stays_copy`).
-/

namespace LinearProgram

/-! ### Tables -/

section Tables

variable {κ α : Type} [BEq κ] [LawfulBEq κ] [DecidableEq κ]

/-- An entry is looked up past the entries of another key. -/
lemma lookup_filter_ne {k d : κ} (hne : k ≠ d) (es : List (κ × α)) :
    (es.filter fun e => e.1 ≠ d).lookup k = es.lookup k := by
  induction es with
  | nil => rfl
  | cons e es ih =>
      obtain ⟨key, value⟩ := e
      by_cases hkey : key = d
      · have hk : (k == key) = false := by simpa [hkey] using hne
        rw [List.filter_cons_of_neg (by simpa using hkey), ih, List.lookup_cons, hk]
      · rw [List.filter_cons_of_pos (by simpa using hkey), List.lookup_cons, List.lookup_cons, ih]

/-- No entry is looked up where the entries of its key are left out. -/
lemma lookup_filter_self (d : κ) (es : List (κ × α)) : (es.filter fun e => e.1 ≠ d).lookup d = none := by
  rw [List.lookup_eq_none_iff]
  intro e he
  have hne : e.1 ≠ d := by simpa using (List.mem_filter.mp he).2
  simpa using hne.symm

end Tables

namespace Files

/-! ### Changes of a store -/

section Changes

variable {fs : Files} {place q : Place} {node : Node} {number n : ℕ} {f : File}

lemma ne_nil_of_node? (h : fs.node? place ≠ some .directory) : place ≠ [] := by
  rintro rfl
  exact h rfl

lemma node?_put_self (hplace : place ≠ []) : (fs.put place node).node? place = some node := by
  rw [node?, if_neg hplace, put, List.lookup_cons_self]

lemma node?_erase_of_ne (hne : q ≠ place) : (fs.erase place).node? q = fs.node? q := by
  unfold node?
  split_ifs with hq
  · rfl
  · exact lookup_filter_ne hne fs.entries

lemma node?_put_of_ne (hne : q ≠ place) : (fs.put place node).node? q = fs.node? q := by
  have hkey : (q == place) = false := by simpa using hne
  calc (fs.put place node).node? q = (fs.erase place).node? q := by
        unfold node?
        rw [put, List.lookup_cons, hkey]
    _ = fs.node? q := node?_erase_of_ne hne

lemma node?_erase_self (hplace : place ≠ []) : (fs.erase place).node? place = none := by
  rw [node?, if_neg hplace]
  exact lookup_filter_self place fs.entries

lemma node?_add_self (hplace : place ≠ []) : (fs.add place f).node? place = some (.file fs.numbered.size) :=
  node?_put_self hplace

lemma node?_add_of_ne (hne : q ≠ place) : (fs.add place f).node? q = fs.node? q :=
  node?_put_of_ne hne

lemma stored_add_self : (fs.add place f).stored fs.numbered.size = f := by
  simp [stored, add]

lemma stored_add_of_lt (hn : n < fs.numbered.size) : (fs.add place f).stored n = fs.stored n := by
  simp [stored, add, Array.getElem?_push, hn.ne]

lemma size_add : (fs.add place f).numbered.size = fs.numbered.size + 1 := by
  simp [add]

lemma size_change : (fs.change number f).numbered.size = fs.numbered.size := by
  simp [change]

lemma stored_change_self (hnumber : number < fs.numbered.size) : (fs.change number f).stored number = f := by
  simp [stored, change, hnumber]

lemma stored_change_of_ne (hne : n ≠ number) : (fs.change number f).stored n = fs.stored n := by
  simp [stored, change, hne.symm]

/-- What is made where nothing was hides no directory and no link. -/
lemma keeps_add (hplace : fs.node? place = none) : fs.Keeps (fs.add place f) := by
  have hne : ∀ {q : Place} {node : Node}, fs.node? q = some node → q ≠ place := by
    rintro q node hq rfl
    rw [hplace] at hq
    cases hq
  exact ⟨fun h => (node?_add_of_ne (hne h)).trans h, fun h => (node?_add_of_ne (hne h)).trans h⟩

lemma keeps_change : fs.Keeps (fs.change number f) := ⟨id, id⟩

/-- A file that goes was no directory and no link. -/
lemma keeps_erase (hplace : fs.node? place = some (.file number)) : fs.Keeps (fs.erase place) := by
  have hne : ∀ {q : Place} {node : Node}, fs.node? q = some node → node ≠ .file number → q ≠ place := by
    rintro q node hq hnode rfl
    exact hnode (Option.some.inj (hq.symm.trans hplace))
  exact ⟨fun h => (node?_erase_of_ne (hne h (by simp))).trans h,
    fun h => (node?_erase_of_ne (hne h (by simp))).trans h⟩

end Changes

/-! ### Files that stand at a path -/

/-- A file stands at a path: the path leads to it, and not through a link at its end. -/
structure Stands (fs : Files) (path : String) (place : Place) (number : ℕ) : Prop where
  located : fs.locateWith false path = .ok place
  node : fs.node? place = some (.file number)
  numbered : number < fs.numbered.size

instance (fs : Files) (path : String) (place : Place) (number : ℕ) : Decidable (fs.Stands path place number) :=
  decidable_of_iff (fs.locateWith false path = .ok place ∧ fs.node? place = some (.file number)
    ∧ number < fs.numbered.size) ⟨fun h => ⟨h.1, h.2.1, h.2.2⟩, fun h => ⟨h.located, h.node, h.numbered⟩⟩

section Standing

variable {fs fs' fs'' : Files} {path other : String} {place q : Place} {number m : ℕ}

lemma findWith_eq_ok_iff {through : Bool} {node : Node} :
    fs.findWith through path = .ok (place, node)
      ↔ fs.locateWith through path = .ok place ∧ fs.node? place = some node := by
  rw [findWith]
  cases hlocate : fs.locateWith through path with
  | error fault => simp [bind, Except.bind]
  | ok q =>
      simp only [bind, Except.bind, Except.ok.injEq]
      constructor
      · intro h
        split at h
        · rename_i node' hnode
          obtain ⟨rfl, rfl⟩ := Prod.mk.inj (Except.ok.inj h)
          exact ⟨rfl, hnode⟩
        · cases h
      · rintro ⟨rfl, hnode⟩
        rw [hnode]

/-- What is read is the content of a file, or that of a device, which has none. -/
lemma read_eq_ok_iff {bytes : List UInt8} :
    fs.read path = .ok bytes
      ↔ (∃ q n, fs.find path = .ok (q, .file n) ∧ (fs.stored n).bytes = bytes)
        ∨ ∃ q d, fs.find path = .ok (q, .device d) ∧ bytes = [] := by
  rw [Files.read, Files.device?, Files.file, Files.number]
  cases fs.find path with
  | error fault => simp [bind, Except.bind, Except.map]
  | ok found =>
      obtain ⟨q, node⟩ := found
      cases node with
      | file n => simp [bind, Except.bind, Except.map]
      | directory => simp [bind, Except.bind, Except.map]
      | link target => simp [bind, Except.bind, Except.map]
      | device d => simp [eq_comm]

lemma Stands.unique (h : fs.Stands path place number) (h' : fs.Stands path q m) : place = q ∧ number = m := by
  obtain rfl := Except.ok.inj (h.located.symm.trans h'.located)
  obtain rfl := Node.file.inj (Option.some.inj (h.node.symm.trans h'.node))
  exact ⟨rfl, rfl⟩

/-- One file has one place: what stands at another number stands elsewhere. -/
lemma Stands.ne_place (h : fs.Stands path place number) (h' : fs.Stands other q m) (hne : number ≠ m) :
    place ≠ q := by
  rintro rfl
  exact hne (Node.file.inj (Option.some.inj (h.node.symm.trans h'.node)))

lemma Stands.findLink (h : fs.Stands path place number) : fs.findLink path = .ok (place, .file number) :=
  findWith_eq_ok_iff.mpr ⟨h.located, h.node⟩

lemma Stands.not_link (h : fs.Stands path place number) (target : String) :
    fs.node? place ≠ some (.link target) := by
  rw [h.node]
  simp

lemma Stands.locate (h : fs.Stands path place number) : fs.locate path = .ok place :=
  locate_of_locateWith h.located h.not_link

lemma Stands.find (h : fs.Stands path place number) : fs.find path = .ok (place, .file number) :=
  findWith_eq_ok_iff.mpr ⟨h.locate, h.node⟩

lemma Stands.device? (h : fs.Stands path place number) : fs.device? path = none := by
  rw [Files.device?, h.find]

lemma Stands.file (h : fs.Stands path place number) : fs.file path = .ok (fs.stored number) := by
  rw [Files.file, Files.number, h.find]
  rfl

lemma Stands.read (h : fs.Stands path place number) : fs.read path = .ok (fs.stored number).bytes := by
  rw [Files.read, h.device?, h.file]
  rfl

/-- The path of a file has no slash at its end. -/
lemma Stands.no_slash (h : fs.Stands path place number) : path.toList.getLast? ≠ some '/' := by
  intro hslash
  have hdirectory := directory_of_slash h.located hslash
  rw [h.node] at hdirectory
  cases hdirectory

/-- What is written must be at a path without a slash at its end. -/
lemma locateWritten_of_no_slash (h : path.toList.getLast? ≠ some '/') : fs.locateWritten path = fs.locate path := by
  rw [locateWritten]
  simp only [h, decide_false, Bool.false_and, Bool.false_eq_true, if_false]
  cases fs.locate path <;> rfl

lemma locateWritten_of_slash (h : path.toList.getLast? = some '/') : fs.locateWritten path ≠ .ok place := by
  intro hok
  rw [locateWritten] at hok
  simp only [h, if_true] at hok
  split at hok <;> cases hlocate : fs.locate _ <;> rw [hlocate] at hok <;> cases hok

lemma Stands.openWritten (h : fs.Stands path place number) : fs.openWritten path = .ok (number, fs) := by
  have hopen : fs.openAt place = .ok (number, fs) := by
    unfold openAt
    rw [h.node]
  rw [Files.openWritten, locateWritten_of_no_slash h.no_slash, h.locate]
  exact hopen

lemma Stands.append (h : fs.Stands path place number) (bytes : List UInt8) :
    fs.append path bytes = .ok (fs.fill number ((fs.stored number).bytes ++ bytes)) := by
  rw [Files.append, h.device?, Files.number, h.find]
  rfl

/-- A path that leads to a file leads to it in every store with the same directories and links. -/
lemma Stands.of_keeps (h : fs.Stands path place number) (hkeeps : fs.Keeps fs')
    (hnode : fs'.node? place = some (.file number)) (hsize : fs.numbered.size ≤ fs'.numbered.size) :
    fs'.Stands path place number := by
  refine ⟨locateWith_of_keeps hkeeps h.located fun htarget => ?_, hnode, h.numbered.trans_le hsize⟩
  rw [hnode] at htarget
  cases htarget

lemma Stands.of_change {n : ℕ} {f : File} (h : (fs.change n f).Stands path place number) :
    fs.Stands path place number :=
  h.of_keeps ⟨id, id⟩ h.node size_change.le

/-! ### What leaves a file alone -/

/-- What stands at a path in one store also stands there in another one, with the same content. -/
def Untouched (fs fs' : Files) (path : String) : Prop :=
  ∀ ⦃place number⦄, fs.Stands path place number →
    fs'.Stands path place number ∧ (fs'.stored number).bytes = (fs.stored number).bytes

/-- What stands at a path in one store also stands there in another one, whatever has become of its content. -/
def Stays (fs fs' : Files) (path : String) : Prop :=
  ∀ ⦃place number⦄, fs.Stands path place number → fs'.Stands path place number

lemma Stays.trans (h : fs.Stays fs' path) (h' : fs'.Stays fs'' path) : fs.Stays fs'' path :=
  fun _ _ hstands => h' (h hstands)

lemma Untouched.stays (h : fs.Untouched fs' path) : fs.Stays fs' path := fun _ _ hstands => (h hstands).1

lemma Untouched.refl (fs : Files) (path : String) : fs.Untouched fs path := fun _ _ h => ⟨h, rfl⟩

lemma Untouched.trans (h : fs.Untouched fs' path) (h' : fs'.Untouched fs'' path) : fs.Untouched fs'' path :=
  fun _ _ hstands =>
    let ⟨hstands', hbytes⟩ := h hstands
    let ⟨hstands'', hbytes'⟩ := h' hstands'
    ⟨hstands'', hbytes'.trans hbytes⟩

/-- What stands at a path, if anything, is a file, and not the one that stands at another path. -/
def Clear (fs : Files) (path other : String) : Prop :=
  ∀ ⦃place node⦄, fs.findLink path = .ok (place, node) →
    (∃ number, node = .file number) ∧ ∀ number, ¬fs.Stands other place number

lemma Stands.clear (h : fs.Stands path place number) (hother : ∀ q m, fs.Stands other q m → q ≠ place) :
    fs.Clear path other := by
  intro q node hfind
  obtain ⟨rfl, rfl⟩ := Prod.mk.inj (Except.ok.inj (h.findLink.symm.trans hfind))
  exact ⟨⟨number, rfl⟩, fun m hm => hother _ m hm rfl⟩

/-- A new file at a free place leaves every file alone. -/
lemma untouched_add (hplace : fs.node? place = none) (f : File) (path : String) :
    fs.Untouched (fs.add place f) path := by
  intro q m h
  have hne : q ≠ place := by
    rintro rfl
    exact absurd (hplace.symm.trans h.node) (by simp)
  have hnode : (fs.add place f).node? q = some (.file m) := (node?_add_of_ne hne).trans h.node
  refine ⟨h.of_keeps (keeps_add hplace) hnode (by rw [size_add]; omega), ?_⟩
  rw [stored_add_of_lt h.numbered]

/-- Another content of a file leaves it, and every other file, where it is. -/
lemma stays_change (n : ℕ) (f : File) (path : String) : fs.Stays (fs.change n f) path :=
  fun _ _ h => h.of_keeps keeps_change h.node size_change.ge

/-- Another content of a file leaves every other file alone. -/
lemma untouched_change {f : File} (hother : ∀ q, ¬fs.Stands path q number) :
    fs.Untouched (fs.change number f) path := by
  intro q m h
  have hne : m ≠ number := by
    rintro rfl
    exact hother q h
  refine ⟨stays_change number f path h, ?_⟩
  rw [stored_change_of_ne hne]

/-- The end of a file leaves every other file alone. -/
lemma untouched_erase (hplace : fs.node? place = some (.file number)) (hother : ∀ m, ¬fs.Stands path place m) :
    fs.Untouched (fs.erase place) path := by
  intro q m h
  have hne : q ≠ place := by
    rintro rfl
    exact hother m h
  exact ⟨h.of_keeps (keeps_erase hplace) ((node?_erase_of_ne hne).trans h.node) le_rfl, rfl⟩

/-- What is found once a file is gone has been there before. -/
lemma findLink_of_erase {node : Node} (hplace : fs.node? place = some (.file number))
    (h : (fs.erase place).findLink path = .ok (q, node)) : fs.findLink path = .ok (q, node) := by
  have hback : ∀ {q' : Place} {node' : Node}, (fs.erase place).node? q' = some node' → fs.node? q' = some node' := by
    intro q' node' hnode'
    have hne : q' ≠ place := by
      rintro rfl
      have hnil := ne_nil_of_node? (by rw [hplace]; simp : fs.node? q' ≠ some .directory)
      rw [node?_erase_self hnil] at hnode'
      cases hnode'
    rwa [node?_erase_of_ne hne] at hnode'
  obtain ⟨hlocate, hnode⟩ := findWith_eq_ok_iff.mp h
  refine findWith_eq_ok_iff.mpr ⟨locateWith_of_keeps ⟨hback, hback⟩ hlocate fun htarget => ?_, hback hnode⟩
  rw [hnode, ← hback hnode, htarget]

lemma Stands.of_erase (hplace : fs.node? place = some (.file number)) (h : (fs.erase place).Stands path q m) :
    fs.Stands path q m := by
  obtain ⟨hlocate, hnode⟩ := findWith_eq_ok_iff.mp (findLink_of_erase hplace h.findLink)
  exact ⟨hlocate, hnode, h.numbered⟩

/-- The file at a path is removed from its place. -/
lemma eq_erase_of_remove (hclear : fs.Clear path other) (hremove : fs.remove path = .ok fs') :
    ∃ place number, fs.node? place = some (.file number) ∧ fs' = fs.erase place ∧ ∀ m, ¬fs.Stands other place m := by
  rw [remove] at hremove
  cases hfind : fs.findLink path with
  | error fault =>
      rw [hfind] at hremove
      cases hremove
  | ok found =>
      obtain ⟨place, node⟩ := found
      obtain ⟨⟨number, rfl⟩, hother⟩ := hclear hfind
      rw [hfind] at hremove
      obtain rfl := Except.ok.inj hremove
      exact ⟨place, number, (findWith_eq_ok_iff.mp hfind).2, rfl, hother⟩

/-- **The end of a file that is clear of another one leaves the other one alone.** -/
lemma untouched_remove (hclear : fs.Clear path other) (hremove : fs.remove path = .ok fs') :
    fs.Untouched fs' other := by
  obtain ⟨place, number, hplace, rfl, hother⟩ := eq_erase_of_remove hclear hremove
  exact untouched_erase hplace hother

lemma findLink_of_remove {found : Place × Node} (hclear : fs.Clear path other) (hremove : fs.remove path = .ok fs')
    (hfound : fs'.findLink other = .ok found) : fs.findLink other = .ok found := by
  obtain ⟨place, number, hplace, rfl, -⟩ := eq_erase_of_remove hclear hremove
  exact findLink_of_erase hplace hfound

/-- A file that stands at a path can be removed. -/
lemma Stands.remove (h : fs.Stands path place number) : fs.remove path = .ok (fs.erase place) := by
  rw [Files.remove, h.findLink]
  rfl

/-- **Where a file has been removed, nothing is left.** -/
lemma Stands.not_holds_erase (h : fs.Stands path place number) : (fs.erase place).holds path = false := by
  rw [holds]
  cases hfind : (fs.erase place).findLink path with
  | error fault => rfl
  | ok found =>
      obtain ⟨q, node⟩ := found
      -- what is left at the path has been there before, and is now at no place
      obtain ⟨rfl, rfl⟩ := Prod.mk.inj (Except.ok.inj (h.findLink.symm.trans (findLink_of_erase h.node hfind)))
      have hnode := (findWith_eq_ok_iff.mp hfind).2
      rw [node?_erase_self (ne_nil_of_node? (by rw [h.node]; simp))] at hnode
      cases hnode

/-- Where nothing is, nothing comes when a file goes. -/
lemma Stands.not_holds_of_erase (h : fs.Stands path place number) (hgone : fs.holds other = false) :
    (fs.erase place).holds other = false := by
  rw [holds] at hgone ⊢
  cases hfind : (fs.erase place).findLink other with
  | error fault => rfl
  | ok found =>
      rw [findLink_of_erase h.node hfind] at hgone
      cases hgone

/-- What is clear of a file stays so when another file goes. -/
lemma Clear.remove {third : String} (h : fs.Clear path other) (hclear : fs.Clear third path)
    (hremove : fs.remove third = .ok fs') : fs'.Clear path other := by
  obtain ⟨place, number, hplace, rfl, -⟩ := eq_erase_of_remove hclear hremove
  intro q node hfound
  obtain ⟨hfile, hother⟩ := h (findLink_of_erase hplace hfound)
  exact ⟨hfile, fun m hm => hother m (hm.of_erase hplace)⟩

/-! ### Files that are made and copied -/

lemma findLink_of_not_holds (hfree : fs.holds path = false) (node : Node) : fs.findLink path ≠ .ok (place, node) := by
  intro h
  rw [holds, h] at hfree
  cases hfree

/-- What is opened to be written is at the place of its path: a new file where nothing was, or the file there. -/
lemma eq_of_openWritten {opened : ℕ × Files} (h : fs.openWritten path = .ok opened) :
    ∃ place, fs.locate path = .ok place
      ∧ (fs.node? place = none ∧ opened = (fs.numbered.size, fs.add place ⟨[], false⟩)
        ∨ ∃ n, fs.node? place = some (.file n) ∧ opened = (n, fs)) := by
  rw [openWritten] at h
  cases hlocate : fs.locateWritten path with
  | error fault =>
      rw [hlocate] at h
      cases h
  | ok place =>
      rw [hlocate] at h
      by_cases hslash : path.toList.getLast? = some '/'
      · exact absurd hlocate (locateWritten_of_slash hslash)
      rw [locateWritten_of_no_slash hslash] at hlocate
      change fs.openAt place = .ok opened at h
      unfold openAt at h
      refine ⟨place, hlocate, ?_⟩
      cases hnode : fs.node? place with
      | none =>
          rw [hnode] at h
          exact .inl ⟨rfl, (Except.ok.inj h).symm⟩
      | some node =>
          rw [hnode] at h
          cases node with
          | file n => exact .inr ⟨n, rfl, (Except.ok.inj h).symm⟩
          | directory => cases h
          | device d => cases h
          | link target => exact absurd hnode (not_link_of_locate hlocate target)

/-- What is opened to be written leaves every file where it is. -/
lemma stays_openWritten {opened : ℕ × Files} (h : fs.openWritten other = .ok opened) (path : String) :
    fs.Stays opened.2 path := by
  obtain ⟨place, -, ⟨hnone, rfl⟩ | ⟨n, -, rfl⟩⟩ := eq_of_openWritten h
  · exact (untouched_add hnone _ _).stays
  · exact fun _ _ h => h

/-- A path leads to the file that stands at another path, which may be at another place. -/
def LeadsTo (fs : Files) (path other : String) : Prop := ∃ q m p, fs.Stands other q m ∧ fs.find path = .ok (p, .file m)

/-- What is opened to be written is another file than one that does not stand at the path. -/
lemma untouched_openWritten {opened : ℕ × Files} (hother : ¬fs.LeadsTo other path)
    (h : fs.openWritten other = .ok opened) :
    fs.Untouched opened.2 path ∧ ∀ q m, fs.Stands path q m → m ≠ opened.1 := by
  obtain ⟨place, hlocate, ⟨hnone, rfl⟩ | ⟨n, hnode, rfl⟩⟩ := eq_of_openWritten h
  · exact ⟨untouched_add hnone _ _, fun q m hq => hq.numbered.ne⟩
  · refine ⟨Untouched.refl _ _, ?_⟩
    rintro q m hq rfl
    exact hother ⟨q, m, place, hq, findWith_eq_ok_iff.mpr ⟨hlocate, hnode⟩⟩

/-- Nothing is found behind a link where there is nothing that could be the link. -/
lemma find_of_not_holds (hfree : fs.holds path = false) (found : Place × Node) : fs.find path ≠ .ok found := by
  intro h
  obtain ⟨goal, node⟩ := found
  obtain ⟨hlocate, hnode⟩ := findWith_eq_ok_iff.mp h
  obtain ⟨q, hq⟩ := exists_locateWith_of_locate hlocate
  cases hnode' : fs.node? q with
  | some node' => exact findLink_of_not_holds hfree node' (findWith_eq_ok_iff.mpr ⟨hq, hnode'⟩)
  | none =>
      -- there is no link at the end, so it makes no difference whether one would be followed
      have hlocate' : fs.locate path = .ok q := locate_of_locateWith hq fun target => by rw [hnode']; simp
      obtain rfl := Except.ok.inj (hlocate.symm.trans hlocate')
      rw [hnode'] at hnode
      cases hnode

/-- Where something can be read, something is found, which may be a link. -/
lemma exists_findLink_of_read {bytes : List UInt8} (hread : fs.read path = .ok bytes) :
    ∃ q node, fs.findLink path = .ok (q, node) := by
  cases hfind : fs.findLink path with
  | ok found => exact ⟨found.1, found.2, rfl⟩
  | error fault =>
      have hfree : fs.holds path = false := by
        rw [holds, hfind]
        rfl
      rcases read_eq_ok_iff.mp hread with ⟨q, n, hfound, -⟩ | ⟨q, d, hfound, -⟩
      · exact absurd hfound (find_of_not_holds hfree _)
      · exact absurd hfound (find_of_not_holds hfree _)

lemma fill_add_nil : (fs.add place ⟨[], false⟩).fill fs.numbered.size [] = fs.add place ⟨[], false⟩ := by
  rw [fill, stored_add_self, change]
  simp only [add, Files.mk.injEq, true_and]
  refine Array.ext_getElem? fun i => ?_
  rw [Array.getElem?_setIfInBounds, Array.getElem?_push, Array.size_push]
  split_ifs with hi hlt <;> first | rfl | omega

/-- **A file that is made where nothing was** is a new file at a free place. -/
lemma eq_add_of_write (hfree : fs.holds path = false) (hwrite : fs.write path [] = .ok fs') :
    ∃ place, fs.locateWith false path = .ok place ∧ fs.node? place = none ∧ fs' = fs.add place ⟨[], false⟩ := by
  have hdevice : fs.device? path = none := by
    rw [device?]
    split
    · rename_i hfind
      exact absurd hfind (find_of_not_holds hfree _)
    · rfl
  rw [write, hdevice] at hwrite
  cases hopen : fs.openWritten path with
  | error fault =>
      rw [hopen] at hwrite
      cases hwrite
  | ok opened =>
      rw [hopen] at hwrite
      obtain ⟨place, hlocate, ⟨hnone, rfl⟩ | ⟨n, hnode, -⟩⟩ := eq_of_openWritten hopen
      · obtain ⟨q, hq⟩ := exists_locateWith_of_locate hlocate
        have hqnone : fs.node? q = none := by
          cases hnode : fs.node? q with
          | none => rfl
          | some node => exact absurd (findWith_eq_ok_iff.mpr ⟨hq, hnode⟩) (findLink_of_not_holds hfree _)
        have hsame : fs.locate path = .ok q := locate_of_locateWith hq fun target => by rw [hqnone]; simp
        obtain rfl := Except.ok.inj (hlocate.symm.trans hsame)
        obtain rfl := Except.ok.inj hwrite
        exact ⟨place, hq, hnone, fill_add_nil⟩
      · exact absurd (findWith_eq_ok_iff.mpr ⟨hlocate, hnode⟩) (find_of_not_holds hfree _)

/-- **A new file stands where it was made.** -/
lemma stands_add (hlocate : fs.locateWith false path = .ok place) (hplace : fs.node? place = none) (f : File) :
    (fs.add place f).Stands path place fs.numbered.size := by
  have hne : place ≠ [] := ne_nil_of_node? (by rw [hplace]; simp)
  refine ⟨locateWith_of_keeps (keeps_add hplace) hlocate ?_, node?_add_self hne, by rw [size_add]; omega⟩
  rw [node?_add_self hne]
  exact fun h => absurd h (by simp)

/-- What is found at a path is found there when there is a new file elsewhere. -/
lemma find_add {found : Place × Node} (hplace : fs.node? place = none) (h : fs.find path = .ok found) (f : File) :
    (fs.add place f).find path = .ok found := by
  obtain ⟨q, node⟩ := found
  obtain ⟨hlocate, hnode⟩ := findWith_eq_ok_iff.mp h
  have hne : q ≠ place := by
    rintro rfl
    exact absurd (hplace.symm.trans hnode) (by simp)
  have hsame : (fs.add place f).node? q = some node := (node?_add_of_ne hne).trans hnode
  refine findWith_eq_ok_iff.mpr ⟨locateWith_of_keeps (keeps_add hplace) hlocate fun htarget => ?_, hsame⟩
  rw [hnode, ← hsame, htarget]

/-- **A copy to a file has the content of its source**, and changes nothing else. A file that is copied onto itself
under another name has lost its content by the time it is read. -/
lemma copy_of_found (hsource : fs.find path = .ok (place, .file number)) (htarget : fs.Stands other q m)
    (hne : place ≠ q) :
    ∃ f, fs.copy path other = .ok (fs.change m f)
      ∧ f.bytes = if number = m then [] else (fs.stored number).bytes := by
  have hsame : fs.samePlace path other = false := by
    rw [samePlace, hsource, htarget.find]
    exact decide_eq_false hne
  refine ⟨(fs.fill m []).stored number, ?_, ?_⟩
  · rw [copy, hsame, if_neg Bool.false_ne_true, hsource, htarget.device?, htarget.openWritten]
    simp [bind, Except.bind, fill, change]
  · split_ifs with heq
    · rw [heq, fill, stored_change_self htarget.numbered]
    · rw [fill, stored_change_of_ne heq]

/-- **What a copy does.** It changes nothing if it goes onto its own place or to a device that takes it. Otherwise what
has been opened at the target is emptied, and then filled with what the source holds by that time. -/
lemma copy_cases {source target : String} (hcopy : fs.copy source target = .ok fs') :
    fs.samePlace source target = true ∧ fs' = fs
      ∨ fs.samePlace source target ≠ true ∧ ∃ q n, fs.find source = .ok (q, .file n)
        ∧ ((∃ d, fs.device? target = some d ∧ fs' = fs)
          ∨ ∃ m fs₁, fs.openWritten target = .ok (m, fs₁)
            ∧ fs' = (fs₁.fill m []).change m ((fs₁.fill m []).stored n)) := by
  rw [copy] at hcopy
  by_cases hsame : fs.samePlace source target = true
  · rw [if_pos hsame] at hcopy
    exact .inl ⟨hsame, (Except.ok.inj hcopy).symm⟩
  · rw [if_neg hsame] at hcopy
    refine .inr ⟨hsame, ?_⟩
    cases hfind : fs.find source with
    | error fault =>
        rw [hfind] at hcopy
        cases hcopy
    | ok found =>
        obtain ⟨q, node⟩ := found
        rw [hfind] at hcopy
        simp only [bind, Except.bind] at hcopy
        split at hcopy
        case h_1 n d hdevice =>
            rw [writeDevice] at hcopy
            split_ifs at hcopy
            exact ⟨q, n, rfl, .inl ⟨d, hdevice, (Except.ok.inj hcopy).symm⟩⟩
        case h_2 n hdevice =>
            cases hopen : fs.openWritten target with
            | error fault =>
                rw [hopen] at hcopy
                cases hcopy
            | ok opened =>
                rw [hopen] at hcopy
                exact ⟨q, n, rfl, .inr ⟨opened.1, opened.2, rfl, (Except.ok.inj hcopy).symm⟩⟩
        case h_3 => cases hcopy

/-- **A copy leaves every file where it is**, whatever becomes of its content. -/
lemma stays_copy {source target : String} (hcopy : fs.copy source target = .ok fs') (path : String) :
    fs.Stays fs' path := by
  rcases copy_cases hcopy with ⟨-, rfl⟩ | ⟨-, q, n, -, ⟨d, -, rfl⟩ | ⟨m, fs₁, hopen, rfl⟩⟩
  · exact fun _ _ h => h
  · exact fun _ _ h => h
  · exact ((stays_openWritten hopen path).trans (stays_change m _ path)).trans (stays_change m _ path)

/-- **A copy leaves alone every file but its target**, and also that one if it is copied onto its own place. -/
lemma untouched_copy {source target : String} (hcopy : fs.copy source target = .ok fs')
    (htarget : fs.samePlace source target = true ∨ ¬fs.LeadsTo target path) :
    fs.Untouched fs' path := by
  rcases copy_cases hcopy with ⟨-, rfl⟩ | ⟨hsame, q, number, -, ⟨d, -, rfl⟩ | ⟨m, fs₁, hopen, rfl⟩⟩
  · exact Untouched.refl _ _
  · exact Untouched.refl _ _
  · obtain ⟨huntouched, hnumber⟩ := untouched_openWritten (htarget.resolve_left hsame) hopen
    intro p n h
    have hnot : ∀ p, ¬fs₁.Stands path p m := fun p hp => hnumber _ _ h ((huntouched h).1.unique hp).2
    have hfill : fs₁.Untouched (fs₁.fill m []) path := untouched_change hnot
    exact ((huntouched.trans hfill).trans (untouched_change fun p hp => hnot p hp.of_change)) h

/-- A path leads to a file. -/
def LeadsToFile (fs : Files) (path : String) : Prop := ∃ q n, fs.find path = .ok (q, .file n) ∧ n < fs.numbered.size

/-- What is opened to be written is found at its path. -/
lemma find_of_openWritten {opened : ℕ × Files} (h : fs.openWritten path = .ok opened) :
    ∃ place, opened.2.find path = .ok (place, .file opened.1) := by
  obtain ⟨place, hlocate, ⟨hnone, rfl⟩ | ⟨n, hnode, rfl⟩⟩ := eq_of_openWritten h
  · have hself : (fs.add place ⟨[], false⟩).node? place = some (.file fs.numbered.size) :=
      node?_add_self (ne_nil_of_node? (by rw [hnone]; simp))
    refine ⟨place, findWith_eq_ok_iff.mpr ⟨locateWith_of_keeps (keeps_add hnone) hlocate fun htarget => ?_, hself⟩⟩
    rw [hself] at htarget
    cases htarget
  · exact ⟨place, findWith_eq_ok_iff.mpr ⟨hlocate, hnode⟩⟩

lemma find_change {found : Place × Node} (h : fs.find path = .ok found) (n : ℕ) (f : File) :
    (fs.change n f).find path = .ok found := by
  obtain ⟨q, node⟩ := found
  obtain ⟨hlocate, hnode⟩ := findWith_eq_ok_iff.mp h
  exact findWith_eq_ok_iff.mpr ⟨locateWith_of_keeps keeps_change hlocate id, hnode⟩

/-- What a file has been filled with can be read, unless there has been no such file. -/
lemma read_change (h : fs.find path = .ok (place, .file number)) (f : File) :
    ((fs.change number f).read path = .ok f.bytes ∨ (fs.change number f).read path = .ok [])
      ∧ ((fs.change number f).LeadsToFile path → (fs.change number f).read path = .ok f.bytes) := by
  have hfind := find_change h number f
  have hread : (fs.change number f).read path = .ok ((fs.change number f).stored number).bytes :=
    read_eq_ok_iff.mpr (.inl ⟨place, number, hfind, rfl⟩)
  by_cases hnumber : number < fs.numbered.size
  · rw [hread, stored_change_self hnumber]
    exact ⟨.inl rfl, fun _ => rfl⟩
  · have hnone : (fs.change number f).stored number = ⟨[], false⟩ := by
      have hsize : (fs.change number f).numbered.size ≤ number := by
        rw [size_change]
        exact not_lt.mp hnumber
      rw [stored, Array.getElem?_eq_none hsize]
      rfl
    rw [hread, hnone]
    refine ⟨.inr rfl, fun ⟨q, n, hfound, hn⟩ => ?_⟩
    obtain ⟨-, hfile⟩ := Prod.mk.inj (Except.ok.inj (hfind.symm.trans hfound))
    obtain rfl := Node.file.inj hfile
    exact absurd (size_change ▸ hn) hnumber

/-- What is at the place of a file is the file, by whatever path it is reached. -/
lemma Stands.find_of_samePlace (h : fs.Stands path place number) (hsame : fs.samePlace path other = true) :
    fs.find other = .ok (place, .file number) := by
  rw [samePlace, h.find] at hsame
  cases hfind : fs.find other with
  | error fault => simp [hfind] at hsame
  | ok found =>
      obtain ⟨q, node⟩ := found
      obtain rfl : place = q := by simpa [hfind] using hsame
      obtain rfl := Option.some.inj (h.node.symm.trans (findWith_eq_ok_iff.mp hfind).2)
      rfl

/-- A device holds nothing, and it is no file. -/
lemma read_of_device {d : Device} (h : fs.device? path = some d) : fs.read path = .ok [] ∧ ¬fs.LeadsToFile path := by
  refine ⟨by rw [read, h]; rfl, fun ⟨q, n, hfound, _⟩ => ?_⟩
  rw [device?, hfound] at h
  cases h

/-- **What has been copied can be read at its target**, unless a device has taken it. The target must not be the source
at another place. -/
lemma read_of_copy {source target : String} (hsource : fs.Stands source place number)
    (hcopy : fs.copy source target = .ok fs')
    (htarget : fs.samePlace source target = true ∨ ¬fs.LeadsTo target source) :
    (fs'.read target = .ok (fs.stored number).bytes ∨ fs'.read target = .ok [])
      ∧ (fs'.LeadsToFile target → fs'.read target = .ok (fs.stored number).bytes) := by
  rcases copy_cases hcopy with ⟨hsame, rfl⟩ | ⟨hsame, q, n, hfind, ⟨d, hdevice, rfl⟩ | ⟨m, fs₁, hopen, rfl⟩⟩
  · have hread : fs'.read target = .ok (fs'.stored number).bytes :=
      read_eq_ok_iff.mpr (.inl ⟨place, number, hsource.find_of_samePlace hsame, rfl⟩)
    exact ⟨.inl hread, fun _ => hread⟩
  · obtain ⟨hread, hfile⟩ := read_of_device hdevice
    exact ⟨.inr hread, fun h => absurd h hfile⟩
  · obtain ⟨-, hnode⟩ := Prod.mk.inj (Except.ok.inj (hsource.find.symm.trans hfind))
    obtain rfl := Node.file.inj hnode
    obtain ⟨r, hopened⟩ := find_of_openWritten hopen
    obtain ⟨huntouched, hnumber⟩ := untouched_openWritten (htarget.resolve_left hsame) hopen
    -- the source is read once the target is empty, but it is another file
    have hbytes : ((fs₁.fill m []).stored number).bytes = (fs.stored number).bytes := by
      rw [fill, stored_change_of_ne (hnumber _ _ hsource)]
      exact (huntouched hsource).2
    have hread := read_change (find_change hopened m { fs₁.stored m with bytes := [] })
      ((fs₁.fill m []).stored number)
    rwa [hbytes] at hread

/-! ### Files by their paths -/

/-- A file stands at a path. -/
def IsFile (fs : Files) (path : String) : Prop := ∃ place number, fs.Stands path place number

/-- The place of a path; a link at its end is not followed. -/
def placeOf (fs : Files) (path : String) : Place := (fs.locateWith false path).toOption.getD []

lemma Stands.isFile (h : fs.Stands path place number) : fs.IsFile path := ⟨place, number, h⟩

lemma Stands.placeOf (h : fs.Stands path place number) : fs.placeOf path = place := by
  rw [Files.placeOf, h.located]
  rfl

lemma Stays.isFile (h : fs.Stays fs' path) (hfile : fs.IsFile path) : fs'.IsFile path :=
  let ⟨_, _, hstands⟩ := hfile
  (h hstands).isFile

lemma Stays.placeOf (h : fs.Stays fs' path) (hfile : fs.IsFile path) : fs'.placeOf path = fs.placeOf path := by
  obtain ⟨place, number, hstands⟩ := hfile
  rw [hstands.placeOf, (h hstands).placeOf]

lemma Untouched.isFile (h : fs.Untouched fs' path) (hfile : fs.IsFile path) : fs'.IsFile path := h.stays.isFile hfile

lemma Untouched.placeOf (h : fs.Untouched fs' path) (hfile : fs.IsFile path) : fs'.placeOf path = fs.placeOf path :=
  h.stays.placeOf hfile

lemma Untouched.read (h : fs.Untouched fs' path) (hfile : fs.IsFile path) : fs'.read path = fs.read path := by
  obtain ⟨place, number, hstands⟩ := hfile
  rw [hstands.read, (h hstands).1.read, (h hstands).2]

/-- A file is clear of what is at another place. -/
lemma IsFile.clear (hfile : fs.IsFile path) (hne : fs.placeOf path ≠ fs.placeOf other) : fs.Clear path other := by
  obtain ⟨place, number, hstands⟩ := hfile
  refine hstands.clear fun q m hq => ?_
  rw [hstands.placeOf, hq.placeOf] at hne
  exact hne.symm

end Standing

end Files

end LinearProgram
