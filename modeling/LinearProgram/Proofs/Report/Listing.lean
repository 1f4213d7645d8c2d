import LinearProgram.Proofs.Report.Readable

/-!
What stands where in a report, and what that lists.

A report is read from its first line to its last, and a later line overrides an earlier one. So the last line of its
kind counts, and what a line means can depend on the lines before it.

* `lastWith?`, `withBefore`: the last element of a kind, and each element with what stands before it.
* `upTo`, `beyond`: a list up to and including the first element of a kind, and the rest of it.
* `number?`, `count?`: the number that a field spells; `realField_eq_ok_iff`, `countField_eq_ok_iff`: a field is read
  exactly if it spells one.
* `lastOf?`, `fieldLines`: lines by their fields, and the last one that begins with a keyword.
* `lastGiven`, `GivesLast`: the value that is given last under a keyword.
* `Assignment.get?_put`: **a value that is set is the value of its name, and of no other.**
* `Listing`, `Listing.last?`: values listed for names; `Listing.get?_values`: **of the values that are set one by one,
  those listed last remain.**
* `Table`, `Table.listing`: how lines list values, each by the lines before it, and what some lines list.
* `statusIn`: the status that some words name, by a table.
-/

namespace LinearProgram

/-! ### Places in a list -/

section Places

variable {α β : Type}

/-- The last element that satisfies a test. -/
def lastWith? (p : α → Bool) (as : List α) : Option α := (as.filter p).getLast?

lemma lastWith?_concat (p : α → Bool) (as : List α) (a : α) :
    lastWith? p (as ++ [a]) = if p a then some a else lastWith? p as := by
  rw [lastWith?, List.filter_append]
  split_ifs with ha
  · rw [List.filter_cons_of_pos ha, List.filter_nil, List.getLast?_concat]
  · rw [List.filter_cons_of_neg ha, List.filter_nil, List.append_nil, lastWith?]

/-- The last element of a kind is one of the kind. -/
lemma mem_of_lastWith? {p : α → Bool} {as : List α} {a : α} (h : lastWith? p as = some a) : a ∈ as ∧ p a = true :=
  List.mem_filter.mp (List.mem_of_getLast? h)

lemma lastWith?_eq_none_iff {p : α → Bool} {as : List α} : lastWith? p as = none ↔ ∀ a ∈ as, p a = false := by
  rw [lastWith?, List.getLast?_eq_none_iff, List.filter_eq_nil_iff]
  simp only [Bool.not_eq_true]

/-- Each element of a list, with the elements before it. -/
def withBefore : List α → List (List α × α)
  | [] => []
  | a :: as => ([], a) :: (withBefore as).map fun e => (a :: e.1, e.2)

lemma withBefore_concat (as : List α) (a : α) : withBefore (as ++ [a]) = withBefore as ++ [(as, a)] := by
  induction as with
  | nil => rfl
  | cons b as ih => rw [List.cons_append, withBefore, withBefore, ih, List.map_append, List.cons_append]; rfl

/-- **An element stands behind some others if a list is cut there.** -/
lemma mem_withBefore_iff {as before : List α} {a : α} :
    (before, a) ∈ withBefore as ↔ ∃ after, as = before ++ a :: after := by
  induction as generalizing before with
  | nil => simp [withBefore]
  | cons b as ih =>
      rw [withBefore, List.mem_cons, List.mem_map]
      constructor
      · rintro (heq | ⟨⟨init, c⟩, hmem, heq⟩)
        · obtain ⟨rfl, rfl⟩ := Prod.mk.inj heq
          exact ⟨as, rfl⟩
        · obtain ⟨rfl, rfl⟩ := Prod.mk.inj heq
          obtain ⟨after, rfl⟩ := ih.mp hmem
          exact ⟨after, rfl⟩
      · rintro ⟨after, heq⟩
        cases before with
        | nil =>
            obtain ⟨rfl, rfl⟩ := List.cons.inj heq
            exact .inl rfl
        | cons c init =>
            obtain ⟨rfl, rfl⟩ := List.cons.inj heq
            exact .inr ⟨(init, a), ih.mpr ⟨after, rfl⟩, rfl⟩

/-- The elements up to and including the first that satisfies a test, all of them if there is none. -/
def upTo (p : α → Bool) : List α → List α
  | [] => []
  | a :: as => if p a then [a] else a :: upTo p as

/-- The elements behind the first that satisfies a test. -/
def beyond (p : α → Bool) : List α → List α
  | [] => []
  | a :: as => if p a then as else beyond p as

lemma upTo_append_beyond (p : α → Bool) (as : List α) : upTo p as ++ beyond p as = as := by
  induction as with
  | nil => rfl
  | cons a as ih =>
      rw [upTo, beyond]
      split_ifs
      · rfl
      · rw [List.cons_append, ih]

variable {p : α → Bool} {as : List α}

/-- Without an element of the kind, nothing is beyond it. -/
lemma upTo_of_none (h : ∀ a ∈ as, p a = false) : upTo p as = as := by
  induction as with
  | nil => rfl
  | cons a as ih =>
      rw [upTo, if_neg (by simp [h a List.mem_cons_self]), ih fun b hb => h b (List.mem_cons_of_mem a hb)]

lemma beyond_of_none (h : ∀ a ∈ as, p a = false) : beyond p as = [] := by
  have hwhole := upTo_append_beyond p as
  rw [upTo_of_none h] at hwhole
  exact List.append_right_eq_self.mp hwhole

/-- The first element of the kind is the last one up to itself. -/
lemma upTo_concat_of_none (h : ∀ a ∈ as, p a = false) (a : α) :
    upTo p (as ++ [a]) = as ++ [a] ∧ beyond p (as ++ [a]) = [] := by
  induction as with
  | nil =>
      rw [List.nil_append, upTo, beyond]
      split_ifs
      · exact ⟨rfl, rfl⟩
      · exact ⟨rfl, rfl⟩
  | cons b as ih =>
      have hb : ¬ p b = true := by simp [h b List.mem_cons_self]
      obtain ⟨hup, hbeyond⟩ := ih fun c hc => h c (List.mem_cons_of_mem b hc)
      rw [List.cons_append, upTo, beyond, if_neg hb, if_neg hb, hup, hbeyond]
      exact ⟨rfl, rfl⟩

/-- Behind an element of the kind, what stands beyond it has everything up to it before itself. -/
lemma append_mem_withBefore {before : List α} {a : α} (h : (before, a) ∈ withBefore (beyond p as)) :
    (upTo p as ++ before, a) ∈ withBefore as := by
  obtain ⟨after, hbeyond⟩ := mem_withBefore_iff.mp h
  refine mem_withBefore_iff.mpr ⟨after, ?_⟩
  rw [List.append_assoc, ← hbeyond, upTo_append_beyond]

/-- Before an element up to the first of the kind, there is none of the kind. -/
lemma exists_withBefore_of_mem_upTo {a : α} (h : a ∈ upTo p as) :
    ∃ before, (before, a) ∈ withBefore as ∧ before.any p = false := by
  induction as with
  | nil => cases h
  | cons b as ih =>
      rw [upTo] at h
      split_ifs at h with hb
      · obtain rfl := List.mem_singleton.mp h
        exact ⟨[], List.mem_cons_self, rfl⟩
      · rcases List.mem_cons.mp h with rfl | hmem
        · exact ⟨[], List.mem_cons_self, rfl⟩
        · obtain ⟨before, hbefore, hany⟩ := ih hmem
          refine ⟨b :: before, List.mem_cons_of_mem _ (List.mem_map.mpr ⟨(before, a), hbefore, rfl⟩), ?_⟩
          rw [List.any_cons, hany, Bool.eq_false_iff.mpr hb, Bool.or_false]

/-- What is put behind a list that has an element of the kind is beyond it. -/
lemma upTo_append_of_any (h : as.any p = true) (bs : List α) :
    upTo p (as ++ bs) = upTo p as ∧ beyond p (as ++ bs) = beyond p as ++ bs := by
  induction as with
  | nil => simp at h
  | cons a as ih =>
      rw [List.cons_append, upTo, upTo, beyond, beyond]
      split_ifs with ha
      · exact ⟨rfl, rfl⟩
      · have hany : as.any p = true := by simpa [ha] using h
        obtain ⟨hup, hbeyond⟩ := ih hany
        exact ⟨by rw [hup], hbeyond⟩

/-- What is put behind the elements up to the first of the kind is beyond that. -/
lemma beyond_upTo_append (h : as.any p = true) (bs : List α) :
    (upTo p as ++ bs).any p = true ∧ beyond p (upTo p as ++ bs) = bs := by
  induction as with
  | nil => simp at h
  | cons a as ih =>
      rw [upTo]
      split_ifs with ha
      · simp [beyond, ha]
      · have hany : as.any p = true := by simpa [ha] using h
        obtain ⟨hrest, hbeyond⟩ := ih hany
        rw [List.cons_append, List.any_cons, hrest, Bool.or_true, beyond, if_neg ha]
        exact ⟨rfl, hbeyond⟩

/-- What is up to the first element of the kind ends with it. -/
lemma exists_upTo_eq_concat (h : as.any p = true) :
    ∃ before a, upTo p as = before ++ [a] ∧ p a = true ∧ ∀ b ∈ before, p b = false := by
  induction as with
  | nil => simp at h
  | cons a as ih =>
      rw [upTo]
      split_ifs with ha
      · exact ⟨[], a, rfl, ha, by simp⟩
      · have hany : as.any p = true := by simpa [ha] using h
        obtain ⟨before, b, hup, hb, hbefore⟩ := ih hany
        refine ⟨a :: before, b, by rw [hup, List.cons_append], hb, ?_⟩
        exact List.forall_mem_cons.mpr ⟨Bool.eq_false_iff.mpr ha, hbefore⟩

end Places

/-! ### Fields that spell -/

/-- The number that a field spells, if it is there and spells one. -/
def number? (field : Option String) : Option Binary64 := field.bind fun f => (Binary64.read f).toOption

/-- The count that a field spells, if it is there and spells one. -/
def count? (field : Option String) : Option ℕ := field.bind fun f => (readNatural maxSize f).toOption

/-- A field is read exactly if it is there and has the form. -/
lemma readField_eq_ok_iff {α : Type} {form : String → Except String α} {fields : List String} {index : ℕ} {a : α} :
    readField form fields index = .ok a ↔ ∃ field, fields[index]? = some field ∧ form field = .ok a := by
  rw [readField]
  cases fields[index]? with
  | none => simp
  | some field => cases hform : form field <;> simp [hform]

/-- A field is refused for what is wrong with it. -/
lemma exists_of_readField_error {α : Type} {form : String → Except String α} {fields : List String} {index : ℕ}
    {fault : LineFault} (h : readField form fields index = .error fault) : ∃ f, fault = .field f := by
  rw [readField] at h
  split at h
  · exact ⟨_, (Except.error.inj h).symm⟩
  · split at h
    · cases h
    · exact ⟨_, (Except.error.inj h).symm⟩

lemma mapError_eq_ok_iff {ε δ α : Type} {f : ε → δ} {x : Except ε α} {a : α} :
    x.mapError f = .ok a ↔ x.toOption = some a := by
  cases x <;> simp [Except.mapError, Except.toOption]

lemma realField_eq_ok_iff {fields : List String} {index : ℕ} {x : Binary64} :
    realField fields index = .ok x ↔ number? fields[index]? = some x := by
  rw [realField, readField_eq_ok_iff, number?, Option.bind_eq_some_iff]
  exact exists_congr fun field => and_congr_right fun _ => mapError_eq_ok_iff

lemma countField_eq_ok_iff {fields : List String} {index n : ℕ} :
    countField fields index = .ok n ↔ count? fields[index]? = some n := by
  rw [countField, readField_eq_ok_iff, count?, Option.bind_eq_some_iff]
  exact exists_congr fun field => and_congr_right fun _ => mapError_eq_ok_iff

lemma toOption_realField_bind {α : Type} (fields : List String) (index : ℕ) (f : Binary64 → Except LineFault α) :
    (realField fields index >>= f).toOption = (number? fields[index]?).bind fun x => (f x).toOption := by
  cases h : realField fields index with
  | ok x =>
      rw [realField_eq_ok_iff.mp h]
      rfl
  | error fault =>
      cases hx : number? fields[index]? with
      | some x =>
          rw [realField_eq_ok_iff.mpr hx] at h
          cases h
      | none => rfl

/-- A field that has been read for a number spells one. -/
lemma isSome_number?_of_bind {α : Type} {fields : List String} {index : ℕ} {f : Binary64 → Except LineFault α} {a : α}
    (h : (realField fields index >>= f) = .ok a) : (number? fields[index]?).isSome := by
  obtain ⟨x, hx, -⟩ := Except.bind_eq_ok.mp h
  exact Option.isSome_iff_exists.mpr ⟨x, realField_eq_ok_iff.mp hx⟩

/-- A field that has been read for a count spells one. -/
lemma isSome_count?_of_bind {α : Type} {fields : List String} {index : ℕ} {f : ℕ → Except LineFault α} {a : α}
    (h : (countField fields index >>= f) = .ok a) : (count? fields[index]?).isSome := by
  obtain ⟨n, hn, -⟩ := Except.bind_eq_ok.mp h
  exact Option.isSome_iff_exists.mpr ⟨n, countField_eq_ok_iff.mp hn⟩

/-- The last line that begins with a keyword, by its fields. -/
def lastOf? (keyword : String) (lines : List (List String)) : Option (List String) :=
  lastWith? (fun line => line.head? = some keyword) lines

lemma lastOf?_concat (keyword : String) (lines : List (List String)) (line : List String) :
    lastOf? keyword (lines ++ [line]) = if line.head? = some keyword then some line else lastOf? keyword lines := by
  rw [lastOf?, lastWith?_concat]
  simp only [decide_eq_true_iff, lastOf?]

/-- The lines of a text, by their fields. -/
def fieldLines (text : String) : List (List String) := (textLines text).map fields

/-! ### Values under a keyword -/

section Given

variable {α : Type} (value? : Option String → Option α) (default : α) (keyword : String)

/-- The value that the last line with a keyword gives in the field behind it; a default if there is no such line. -/
def lastGiven (lines : List (List String)) : α :=
  ((lastOf? keyword lines).bind fun fields => value? fields[1]?).getD default

/-- Some lines give a value last under a keyword: the last line with the keyword spells it, or there is none and the
value is the default. -/
def GivesLast (lines : List (List String)) (a : α) : Prop :=
  (lastOf? keyword lines).elim (a = default) fun fields => value? fields[1]? = some a

/-- A line spells a value if it has the keyword. -/
def SpellsUnder (fields : List String) : Prop := fields.head? = some keyword → (value? fields[1]?).isSome

lemma lastGiven_concat (lines : List (List String)) (fields : List String) :
    lastGiven value? default keyword (lines ++ [fields])
      = if fields.head? = some keyword then (value? fields[1]?).getD default
        else lastGiven value? default keyword lines := by
  rw [lastGiven, lastOf?_concat]
  split_ifs <;> rfl

variable {value? default keyword} in
/-- What is read last is given last, if every line with the keyword spells a value. -/
lemma givesLast_lastGiven {lines : List (List String)} (h : ∀ fields ∈ lines, SpellsUnder value? keyword fields) :
    GivesLast value? default keyword lines (lastGiven value? default keyword lines) := by
  rw [GivesLast, lastGiven]
  cases hlast : lastOf? keyword lines with
  | none => rfl
  | some fields =>
      obtain ⟨hmem, hkeyword⟩ := mem_of_lastWith? hlast
      obtain ⟨a, ha⟩ := Option.isSome_iff_exists.mp (h fields hmem (of_decide_eq_true hkeyword))
      rw [Option.bind_some, ha]
      exact ha

end Given

/-! ### Values of names -/

lemma lookup_cons_eq_ite {α : Type} (other name : String) (value : α) (es : List (String × α)) :
    List.lookup other ((name, value) :: es) = if other = name then some value else es.lookup other := by
  rw [List.lookup_cons]
  split_ifs with h
  · rw [beq_iff_eq.mpr h]
  · rw [beq_eq_false_iff_ne.mpr h]

/-- In a list of values, a value that is set is the value of its name, and of no other. -/
lemma lookup_putSorted {α : Type} (name : String) (value : α) (es : List (String × α)) (other : String) :
    (putSorted name value es).lookup other = if other = name then some value else es.lookup other := by
  induction es with
  | nil => rw [putSorted, lookup_cons_eq_ite]
  | cons e es ih =>
      obtain ⟨key, current⟩ := e
      simp only [putSorted, lookup_cons_eq_ite]
      by_cases hlt : name < key
      · simp only [if_pos hlt, lookup_cons_eq_ite]
      · by_cases heq : name = key
        · subst heq
          simp only [if_neg hlt, if_true, lookup_cons_eq_ite]
          split_ifs <;> rfl
        · simp only [if_neg hlt, if_neg heq, lookup_cons_eq_ite, ih]
          by_cases hkey : other = key
          · rw [if_pos hkey, if_neg fun h => heq (h.symm.trans hkey), if_pos hkey]
          · rw [if_neg hkey, if_neg hkey]

/-- **A value that is set is the value of its name, and of no other.** -/
lemma Assignment.get?_put (a : Assignment) (name : String) (value : Binary64) (other : String) :
    (a.put name value).get? other = if other = name then some value else a.get? other :=
  lookup_putSorted name value a.entries other

/-! ### Listings -/

/-- Values listed for names, in order: each name with the field that should spell its value. -/
abbrev Listing := List (String × Option String)

namespace Listing

/-- Every value of a listing is spelled. -/
def IsSpelled (listing : Listing) : Prop := ∀ e ∈ listing, (number? e.2).isSome

/-- The value that a listing gives last for a name. -/
def last? (listing : Listing) (name : String) : Option Binary64 :=
  (lastWith? (fun e => e.1 = name) listing).bind fun e => number? e.2

/-- Set the value that is listed for a name, if it is spelled. -/
def set (a : Assignment) (e : String × Option String) : Assignment :=
  match number? e.2 with
  | some value => a.put e.1 value
  | none => a

/-- The values that a listing leaves, set one by one. -/
def values (listing : Listing) : Assignment := listing.foldl set .empty

lemma values_concat (listing : Listing) (e : String × Option String) :
    values (listing ++ [e]) = set (values listing) e := by
  rw [values, List.foldl_append, List.foldl_cons, List.foldl_nil, values]

/-- **Of the values that are set one by one, those listed last remain.** -/
lemma get?_values {listing : Listing} (h : listing.IsSpelled) (name : String) :
    listing.values.get? name = listing.last? name := by
  induction listing using List.reverseRecOn with
  | nil => rfl
  | append_singleton listing e ih =>
      have hlisting : IsSpelled listing := fun d hd => h d (List.mem_append_left _ hd)
      obtain ⟨value, hvalue⟩ := Option.isSome_iff_exists.mp (h e (List.mem_append_right _ (List.mem_singleton_self e)))
      rw [values_concat, set, hvalue, last?, lastWith?_concat, Assignment.get?_put, ih hlisting]
      by_cases hname : name = e.1
      · subst hname
        simp [hvalue]
      · have hother : ¬ e.1 = name := fun heq => hname heq.symm
        simp [hname, hother, last?]

end Listing

/-! ### Tables -/

/-- What a line lists, given the lines before it. -/
abbrev Table (α : Type) := List α → α → Option (String × Option String)

namespace Table

variable {α : Type} (t : Table α)

/-- What some lines list. -/
def listing (lines : List α) : Listing := (withBefore lines).filterMap fun e => t e.1 e.2

lemma listing_concat (lines : List α) (line : α) :
    t.listing (lines ++ [line]) = t.listing lines ++ (t lines line).toList := by
  rw [listing, withBefore_concat, List.filterMap_append, ← listing]
  cases h : t lines line <;> simp [h]

variable {t} in
lemma values_concat_of_none {lines : List α} {line : α} (h : t lines line = none) :
    (t.listing (lines ++ [line])).values = (t.listing lines).values := by
  rw [listing_concat, h, Option.toList_none, List.append_nil]

variable {t} in
lemma values_concat_of_some {lines : List α} {line : α} {name : String} {field : Option String} {x : Binary64}
    (h : t lines line = some (name, field)) (hx : number? field = some x) :
    (t.listing (lines ++ [line])).values = (t.listing lines).values.put name x := by
  rw [listing_concat, h, Option.toList_some, Listing.values_concat, Listing.set, hx]

/-- What a line lists is spelled. -/
def Spells (before : List α) (line : α) : Prop := ∀ e, t before line = some e → (number? e.2).isSome

variable {t} in
/-- A line that lists nothing spells what it lists. -/
lemma spells_of_none {before : List α} {line : α} (h : t before line = none) : t.Spells before line :=
  fun _ he => nomatch h.symm.trans he

variable {t} in
/-- A line that lists a value spells what it lists if the field is a number. -/
lemma spells_iff_of_some {before : List α} {line : α} {name : String} {field : Option String}
    (h : t before line = some (name, field)) : t.Spells before line ↔ (number? field).isSome :=
  ⟨fun hspells => hspells _ h, fun hnumber e he => by obtain rfl := Option.some.inj (h.symm.trans he); exact hnumber⟩

lemma isSpelled_listing_iff {lines : List α} :
    (t.listing lines).IsSpelled ↔ ∀ e ∈ withBefore lines, t.Spells e.1 e.2 := by
  simp only [Listing.IsSpelled, Spells, listing, List.mem_filterMap]
  exact ⟨fun h e he d hd => h d ⟨e, he, hd⟩, fun h d ⟨e, he, hd⟩ => h e he d hd⟩

lemma isSpelled_listing_concat {lines : List α} {line : α} :
    (t.listing (lines ++ [line])).IsSpelled ↔ (t.listing lines).IsSpelled ∧ t.Spells lines line := by
  simp only [isSpelled_listing_iff, withBefore_concat, List.forall_mem_append, List.forall_mem_singleton]

/-- If a line lists the same wherever it stands, the lines list what each of them does. -/
lemma listing_eq_filterMap (f : α → Option (String × Option String)) (lines : List α) :
    listing (fun _ line => f line) lines = lines.filterMap f := by
  induction lines using List.reverseRecOn with
  | nil => rfl
  | append_singleton lines line ih =>
      rw [listing_concat, ih, List.filterMap_append]
      cases h : f line <;> simp [h]

/-- Tables that say the same of each line list the same. -/
lemma listing_congr {t u : Table α} {lines : List α} (h : ∀ e ∈ withBefore lines, t e.1 e.2 = u e.1 e.2) :
    t.listing lines = u.listing lines :=
  List.filterMap_congr h

end Table

/-! ### Statuses -/

/-- The status that some words name, by a table of words that they may begin with. -/
def statusIn (outcomes : List (List String × Status)) (words : List String) : Status :=
  ((outcomes.find? fun outcome => outcome.1.isPrefixOf words).map Prod.snd).getD .unknown

@[simp] lemma statusIn_nil (words : List String) : statusIn [] words = .unknown := rfl

lemma statusIn_cons (start words : List String) (status : Status) (outcomes : List (List String × Status)) :
    statusIn ((start, status) :: outcomes) words
      = if start.isPrefixOf words then status else statusIn outcomes words := by
  rw [statusIn, List.find?_cons]
  split_ifs with h
  · rw [h]
    rfl
  · rw [Bool.eq_false_iff.mpr h]
    rfl

/-- Words begin with others if the first ones agree and the rest begins with the rest. -/
lemma statusIn_cons_cons (first word : String) (start words : List String) (status : Status)
    (outcomes : List (List String × Status)) :
    statusIn ((first :: start, status) :: outcomes) (word :: words)
      = if word = first ∧ start.isPrefixOf words then status else statusIn outcomes (word :: words) := by
  rw [statusIn_cons]
  refine if_congr ?_ rfl rfl
  rw [List.isPrefixOf_cons_cons, Bool.and_eq_true, beq_iff_eq, eq_comm]

end LinearProgram
