import LinearProgram.Proofs.Text.Fields
import LinearProgram.Text.Lower

/-!
Lower case and the parts of a text.

No blank character has a case, none is passed over when the end of a word is looked for, and no lower-case form of
another character is blank; the hyphen is like that, too. So the lower-case form of a text is that of its parts between
blanks or hyphens, and its fields are the lower-case forms of the fields.

* `AreApart`, `not_inRanges`: ranges that do not meet.
* `lowerOne_ascii`: lower case in ASCII.
* `KeptOut`, `KeptOut.lowerAfter`, `KeptOut.exists_lowerAfter`: **characters that no lower-case form brings in.**
* `IsSeparator`, `lowerAfter_append`: **a text is lower-cased between blanks and hyphens.**
* `fields_lower`: **the fields of a lower-case form are the lower-case forms of the fields.**
-/

namespace LinearProgram

/-! ### Ranges -/

/-- Ranges of two lists that do not meet. -/
def AreApart (as bs : List (ℕ × ℕ)) : Prop := ∀ a ∈ as, ∀ b ∈ bs, a.2 < b.1 ∨ b.2 < a.1

instance (as bs : List (ℕ × ℕ)) : Decidable (AreApart as bs) :=
  decidable_of_iff (as.all fun a => bs.all fun b => Nat.blt a.2 b.1 || Nat.blt b.2 a.1) (by simp [AreApart])

lemma inRanges_iff {ranges : List (ℕ × ℕ)} {n : ℕ} : inRanges ranges n = true ↔ ∃ r ∈ ranges, r.1 ≤ n ∧ n ≤ r.2 := by
  simp [inRanges]

/-- What lies in a range of one list lies in none of the other. -/
lemma not_inRanges {as bs : List (ℕ × ℕ)} (h : AreApart as bs) {n : ℕ} (hn : inRanges as n = true) :
    inRanges bs n = false := by
  rw [← Bool.not_eq_true, inRanges_iff]
  rintro ⟨b, hb, hlow, hhigh⟩
  obtain ⟨a, ha, hlow', hhigh'⟩ := inRanges_iff.mp hn
  rcases h a ha b hb with h | h <;> omega

/-- The characters that have a lower-case form of their own, and these forms, as ranges. -/
def capitalRanges : List (ℕ × ℕ) := lowerRuns.map fun r => (r.first, r.last)

/-- The lower-case forms of characters, as ranges. -/
def smallRanges : List (ℕ × ℕ) :=
  lowerRuns.map fun r => (((r.first : ℤ) + r.shift).toNat, ((r.last : ℤ) + r.shift).toNat)

/-! ### Characters -/

lemma toNat_ofNat_of_isValidChar {n : ℕ} (h : n.isValidChar) : (Char.ofNat n).toNat = n := by
  rw [Char.ofNat, dif_pos h]
  rfl

/-- The lower-case form of a character is itself, or that of one of the runs, or that of the capital I with a dot. -/
lemma lowerOne_cases (c : Char) :
    (c = 'İ' ∧ lowerOne c = ['i', '\u0307'])
      ∨ (∃ r ∈ lowerRuns, r.first ≤ c.toNat ∧ c.toNat ≤ r.last
          ∧ lowerOne c = [Char.ofNat ((c.toNat : ℤ) + r.shift).toNat])
      ∨ lowerOne c = [c] := by
  unfold lowerOne
  split_ifs with hdotted
  · exact .inl ⟨hdotted, rfl⟩
  · split
    · rename_i r hfind
      have hr := List.find?_some hfind
      simp only [Bool.and_eq_true, decide_eq_true_iff] at hr
      exact .inr (.inl ⟨r, List.mem_of_find?_eq_some hfind, hr.1.1, hr.1.2, rfl⟩)
    · exact .inr (.inr rfl)

/-- A character that has no case and is not passed over at the end of a word, so that it separates what stands before
it from what stands behind it. -/
structure IsSeparator (c : Char) : Prop where
  capital : inRanges capitalRanges c.toNat = false
  cased : inRanges casedRanges c.toNat = false
  ignorable : inRanges caseIgnorableRanges c.toNat = false

instance (c : Char) : Decidable (IsSeparator c) :=
  decidable_of_iff (inRanges capitalRanges c.toNat = false ∧ inRanges casedRanges c.toNat = false
      ∧ inRanges caseIgnorableRanges c.toNat = false)
    ⟨fun ⟨h, h', h''⟩ => ⟨h, h', h''⟩, fun h => ⟨h.capital, h.cased, h.ignorable⟩⟩

/-- **Blank characters separate.** -/
lemma isSeparator_of_isBlank {c : Char} (hc : isBlank c = true) : IsSeparator c := by
  have hapart : AreApart blankRanges capitalRanges ∧ AreApart blankRanges casedRanges
      ∧ AreApart blankRanges caseIgnorableRanges := by
    decide +kernel
  exact ⟨not_inRanges hapart.1 hc, not_inRanges hapart.2.1 hc, not_inRanges hapart.2.2 hc⟩

lemma isSeparator_hyphen : IsSeparator '-' := by decide +kernel

/-- What separates is its own lower-case form. -/
lemma IsSeparator.lowerOne_eq {c : Char} (hc : IsSeparator c) : lowerOne c = [c] := by
  rcases lowerOne_cases c with ⟨rfl, -⟩ | ⟨r, hr, hlow, hhigh, -⟩ | h
  · exact absurd hc (by decide +kernel)
  · have hcapital : inRanges capitalRanges c.toNat = true :=
      inRanges_iff.mpr ⟨(r.first, r.last), List.mem_map_of_mem hr, hlow, hhigh⟩
    rw [hc.capital] at hcapital
    cases hcapital
  · exact h

/-- Of the ASCII characters, the capital letters are moved by 32, and all others stay. -/
lemma lowerOne_ascii {c : Char} (hc : c.toNat < 0x80) :
    lowerOne c = [if 'A' ≤ c ∧ c ≤ 'Z' then Char.ofNat (c.toNat + 32) else c] := by
  have hall : ((List.range 0x80).all fun n =>
      lowerOne (Char.ofNat n)
        == [if 'A' ≤ Char.ofNat n ∧ Char.ofNat n ≤ 'Z' then Char.ofNat ((Char.ofNat n).toNat + 32) else Char.ofNat n])
      = true := by
    decide +kernel
  have hsame := beq_iff_eq.mp (List.all_eq_true.mp hall c.toNat (List.mem_range.mpr hc))
  rwa [Char.ofNat_toNat] at hsame

/-- Characters that no lower-case form brings in, the `i` of the capital I with a dot apart. The capital letters of
ASCII are looked at one by one, the other characters in their runs. -/
structure KeptOut (ranges : List (ℕ × ℕ)) : Prop where
  capital : ∀ k < 26, inRanges ranges (0x41 + k) = false → inRanges ranges (0x61 + k) = false
  small : AreApart smallRanges.tail ranges
  special : ∀ n ∈ [0, 0x307, 0x3C2, 0x3C3], inRanges ranges n = false

lemma keptOut_iff {ranges : List (ℕ × ℕ)} :
    KeptOut ranges
      ↔ ((List.range 26).all fun k => inRanges ranges (0x41 + k) || !inRanges ranges (0x61 + k)) = true
        ∧ AreApart smallRanges.tail ranges ∧ ([0, 0x307, 0x3C2, 0x3C3].all fun n => !inRanges ranges n) = true := by
  have hcapital : ((List.range 26).all fun k => inRanges ranges (0x41 + k) || !inRanges ranges (0x61 + k)) = true
      ↔ ∀ k < 26, inRanges ranges (0x41 + k) = false → inRanges ranges (0x61 + k) = false := by
    simp only [List.all_eq_true, List.mem_range, Bool.or_eq_true, or_iff_not_imp_left, Bool.not_eq_true,
      Bool.not_eq_true']
  have hspecial : ([0, 0x307, 0x3C2, 0x3C3].all fun n => !inRanges ranges n) = true
      ↔ ∀ n ∈ [0, 0x307, 0x3C2, 0x3C3], inRanges ranges n = false := by
    simp only [List.all_eq_true, Bool.not_eq_true']
  rw [hcapital, hspecial]
  exact ⟨fun h => ⟨h.capital, h.small, h.special⟩, fun ⟨h, h', h''⟩ => ⟨h, h', h''⟩⟩

instance (ranges : List (ℕ × ℕ)) : Decidable (KeptOut ranges) := decidable_of_iff _ keptOut_iff.symm

lemma keptOut_blank : KeptOut blankRanges := by decide +kernel

namespace KeptOut

variable {ranges : List (ℕ × ℕ)} (h : KeptOut ranges)
include h

/-- A character that is not valid stands for the first one. -/
lemma ofNat {n : ℕ} (hn : inRanges ranges n = false) : inRanges ranges (Char.ofNat n).toNat = false := by
  by_cases hvalid : n.isValidChar
  · rw [toNat_ofNat_of_isValidChar hvalid, hn]
  · rw [Char.ofNat, dif_neg hvalid]
    exact h.special 0 (by simp)

lemma lowerOne {c d : Char} (hc : inRanges ranges c.toNat = false) (hd : d ∈ LinearProgram.lowerOne c) :
    inRanges ranges d.toNat = false ∨ c = 'İ' ∧ d = 'i' := by
  by_cases hascii : c.toNat < 0x80
  · rw [lowerOne_ascii hascii] at hd
    obtain rfl := List.mem_singleton.mp hd
    split_ifs with hcapital
    · have hlow : 0x41 ≤ c.toNat := hcapital.1
      have hhigh : c.toNat ≤ 0x5A := hcapital.2
      obtain ⟨k, hk⟩ := Nat.exists_eq_add_of_le hlow
      have hmoved : c.toNat + 32 = 0x61 + k := by omega
      rw [hk] at hc
      rw [hmoved]
      exact .inl (h.ofNat (h.capital k (by omega) hc))
    · exact .inl hc
  · rcases lowerOne_cases c with ⟨rfl, hform⟩ | ⟨r, hr, hlow, hhigh, hform⟩ | hform
    · rw [hform, List.mem_cons, List.mem_singleton] at hd
      rcases hd with rfl | rfl
      · exact .inr ⟨rfl, rfl⟩
      · exact .inl (h.special 0x307 (by simp))
    · -- the one run of ASCII letters is the first one
      have htail : r ∈ lowerRuns.tail := by
        rcases List.mem_cons.mp (show r ∈ ⟨0x41, 0x5A, 1, 32⟩ :: lowerRuns.tail from hr) with rfl | hr
        · dsimp only at hhigh
          omega
        · exact hr
      have hsmall : inRanges smallRanges.tail ((c.toNat : ℤ) + r.shift).toNat = true := by
        rw [smallRanges, ← List.map_tail]
        refine inRanges_iff.mpr ⟨_, List.mem_map_of_mem htail, ?_, ?_⟩
        · exact Int.toNat_le_toNat (by omega)
        · exact Int.toNat_le_toNat (by omega)
      rw [hform] at hd
      obtain rfl := List.mem_singleton.mp hd
      exact .inl (h.ofNat (not_inRanges h.small hsmall))
    · rw [hform] at hd
      obtain rfl := List.mem_singleton.mp hd
      exact .inl hc

end KeptOut

lemma lowerOne_ne_nil (c : Char) : lowerOne c ≠ [] := by
  rcases lowerOne_cases c with ⟨-, h⟩ | ⟨r, -, -, -, h⟩ | h <;> simp [h]

/-! ### Texts -/

@[simp]
lemma lowerAfter_nil (before : List Char) : lowerAfter before [] = [] := rfl

lemma lowerAfter_cons (before : List Char) (c : Char) (s : List Char) :
    lowerAfter before (c :: s)
      = (if c = 'Σ' then [if casedAhead before && !casedAhead s then 'ς' else 'σ'] else lowerOne c)
          ++ lowerAfter (c :: before) s := rfl

/-- Whether a character with a case comes first is decided before the first separator. -/
lemma casedAhead_append {c : Char} (hc : IsSeparator c) (w s : List Char) :
    casedAhead (w ++ c :: s) = casedAhead w := by
  rw [casedAhead, casedAhead, List.find?_append]
  cases hfind : w.find? fun c => !inRanges caseIgnorableRanges c.toNat with
  | some d => rfl
  | none => simp [hc.ignorable, hc.cased]

/-- What stands before a separator does not change what comes behind it. -/
lemma lowerAfter_before {c : Char} (hc : IsSeparator c) (before farther s : List Char) :
    lowerAfter (before ++ c :: farther) s = lowerAfter before s := by
  induction s generalizing before with
  | nil => rfl
  | cons d s ih =>
      rw [lowerAfter_cons, lowerAfter_cons, casedAhead_append hc]
      exact congrArg _ (ih (d :: before))

/-- **A text is lower-cased between separators.** -/
lemma lowerAfter_append {c : Char} (hc : IsSeparator c) (before w s : List Char) :
    lowerAfter before (w ++ c :: s) = lowerAfter before w ++ c :: lowerAfter [] s := by
  induction w generalizing before with
  | nil =>
      have hsigma : c ≠ 'Σ' := by
        rintro rfl
        exact absurd hc (by decide +kernel)
      have hrest : lowerAfter (c :: before) s = lowerAfter [] s := lowerAfter_before hc [] before s
      rw [List.nil_append, lowerAfter_cons, if_neg hsigma, hc.lowerOne_eq, hrest]
      rfl
  | cons d w ih =>
      rw [List.cons_append, lowerAfter_cons, lowerAfter_cons, casedAhead_append hc, ih, List.append_assoc]

lemma lower_append_blank (text other : String) : lower (text ++ " " ++ other) = lower text ++ " " ++ lower other := by
  have hchars : (text ++ " " ++ other).toList = text.toList ++ ' ' :: other.toList := by simp
  rw [lower, hchars, lowerAfter_append (isSeparator_of_isBlank rfl), lower, lower, ← String.toList_inj]
  simp

namespace KeptOut

variable {ranges : List (ℕ × ℕ)} (h : KeptOut ranges)
include h

/-- **The lower-case form of a text has no character that is kept out, if the text has none.** -/
lemma lowerAfter (hi : inRanges ranges 0x69 = false) {before w : List Char}
    (hw : ∀ c ∈ w, inRanges ranges c.toNat = false) :
    ∀ d ∈ LinearProgram.lowerAfter before w, inRanges ranges d.toNat = false := by
  induction w generalizing before with
  | nil => simp
  | cons c w ih =>
      intro d hd
      rw [lowerAfter_cons] at hd
      rcases List.mem_append.mp hd with hd | hd
      · split_ifs at hd
        · obtain rfl := List.mem_singleton.mp hd
          exact h.special 0x3C2 (by simp)
        · obtain rfl := List.mem_singleton.mp hd
          exact h.special 0x3C3 (by simp)
        · rcases h.lowerOne (hw c List.mem_cons_self) hd with hout | ⟨-, rfl⟩
          · exact hout
          · exact hi
      · exact ih (fun e he => hw e (List.mem_cons_of_mem c he)) d hd

/-- If not all characters of a text are among those that are kept out, then not all of its lower-case form are. -/
lemma exists_lowerAfter {before w : List Char} {c : Char} (hmem : c ∈ w) (hc : inRanges ranges c.toNat = false) :
    ∃ d ∈ LinearProgram.lowerAfter before w, inRanges ranges d.toNat = false := by
  induction w generalizing before with
  | nil => cases hmem
  | cons e w ih =>
      rw [lowerAfter_cons]
      rcases List.mem_cons.mp hmem with rfl | hmem
      · split_ifs
        · exact ⟨'ς', by simp, h.special 0x3C2 (by simp)⟩
        · exact ⟨'σ', by simp, h.special 0x3C3 (by simp)⟩
        · by_cases hdotted : c = 'İ'
          · subst hdotted
            exact ⟨'\u0307', List.mem_append_left _ (by decide), h.special 0x307 (by simp)⟩
          · obtain ⟨d, ds, hform⟩ := List.exists_cons_of_ne_nil (lowerOne_ne_nil c)
            have hd : d ∈ LinearProgram.lowerOne c := by simp [hform]
            rcases h.lowerOne hc hd with hout | ⟨hcap, -⟩
            · exact ⟨d, List.mem_append_left _ hd, hout⟩
            · exact absurd hcap hdotted
      · obtain ⟨d, hd, hout⟩ := ih hmem
        exact ⟨d, List.mem_append_right _ hd, hout⟩

end KeptOut

lemma lowerAfter_eq_nil_iff {before w : List Char} : lowerAfter before w = [] ↔ w = [] := by
  cases w with
  | nil => simp
  | cons c w =>
      rw [lowerAfter_cons]
      split_ifs <;> simp [lowerOne_ne_nil]

/-- The lower-case form of a word is a word. -/
lemma IsWord.lowerAfter {w : List Char} (h : IsWord w) : IsWord (lowerAfter [] w) :=
  ⟨fun hnil => h.nonempty (lowerAfter_eq_nil_iff.mp hnil), keptOut_blank.lowerAfter rfl h.solid⟩

/-! ### Fields -/

/-- **The fields of a lower-case form are the lower-case forms of the fields.** -/
lemma fieldsOf_lowerAfter (s : List Char) : fieldsOf (lowerAfter [] s) = (fieldsOf s).map (lowerAfter []) := by
  induction hlength : s.length using Nat.strong_induction_on generalizing s with
  | _ n ih =>
      by_cases hblank : ∃ c ∈ s, isBlank c = true
      · -- the text is cut at any of its blanks
        obtain ⟨c, hmem, hc⟩ := hblank
        obtain ⟨w, rest, rfl⟩ := List.append_of_mem hmem
        rw [List.length_append, List.length_cons] at hlength
        rw [lowerAfter_append (isSeparator_of_isBlank hc), fieldsOf_append_cons hc, fieldsOf_append_cons hc, List.map_append,
          ih w.length (by omega) w rfl, ih rest.length (by omega) rest rfl]
      · have hsolid : ∀ c ∈ s, isBlank c = false := fun c hc => by
          simpa using fun h => hblank ⟨c, hc, h⟩
        by_cases hnil : s = []
        · subst hnil
          rfl
        · have hword : IsWord s := ⟨hnil, hsolid⟩
          rw [fieldsOf_eq_singleton hword, fieldsOf_eq_singleton hword.lowerAfter, List.map_singleton]

lemma fields_lower (text : String) : fields (lower text) = (fields text).map lower := by
  rw [fields, lower, String.toList_ofList, fieldsOf_lowerAfter, fields, List.map_map, List.map_map]
  refine List.map_congr_left fun w _ => ?_
  rw [Function.comp_apply, Function.comp_apply, lower, String.toList_ofList]

end LinearProgram
