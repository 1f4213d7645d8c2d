import Mathlib.Tactic
import LinearProgram.Text.Utf8

/-!
The round trip of texts through UTF-8.

The first byte of a character opens it with its highest bits and with the range in which the next byte lies; each
further byte adds six bits; and the last one completes the character that was encoded.

* `partsFrom_encodeChar`: **the bytes of a character are decoded as it**, whatever follows.
* `decode?_encodeChars`: the bytes of a text are decoded as the text.
* `mem_encodeChar`: an ASCII byte stands for itself only.
-/

namespace LinearProgram

namespace Utf8

lemma toNat_byte {n : ℕ} (h : n < 256) : (UInt8.ofNat n).toNat = n := by
  rw [UInt8.toNat_ofNat', Nat.mod_eq_of_lt h]

/-! ### Bytes inside a character -/

/-- The last byte of a character completes it. -/
lemma partsFrom_last {bits least greatest b : ℕ} (hb : b < 256) (hlow : least ≤ b) (hhigh : b ≤ greatest)
    (bs : List UInt8) :
    partsFrom (some ⟨bits, least, greatest, 0⟩) (UInt8.ofNat b :: bs)
      = some (Char.ofNat (bits * 64 + (b - 0x80))) :: partsFrom none bs := by
  have hnat : (UInt8.ofNat b).toNat = b := toNat_byte hb
  rw [partsFrom, hnat, advance, if_pos ⟨hlow, hhigh⟩]
  rfl

/-- A byte that is not the last one adds its bits. -/
lemma partsFrom_further {bits least greatest further b : ℕ} (hb : b < 256) (hlow : least ≤ b)
    (hhigh : b ≤ greatest) (bs : List UInt8) :
    partsFrom (some ⟨bits, least, greatest, further + 1⟩) (UInt8.ofNat b :: bs)
      = partsFrom (some ⟨bits * 64 + (b - 0x80), 0x80, 0xBF, further⟩) bs := by
  have hnat : (UInt8.ofNat b).toNat = b := toNat_byte hb
  rw [partsFrom, hnat, advance, if_pos ⟨hlow, hhigh⟩]
  rfl

/-- A byte that opens a character. -/
lemma partsFrom_opens {b : ℕ} {p : Pending} (hb : b < 256) (h : lead b = .opens p) (bs : List UInt8) :
    partsFrom none (UInt8.ofNat b :: bs) = partsFrom (some p) bs := by
  have hnat : (UInt8.ofNat b).toNat = b := toNat_byte hb
  rw [partsFrom, hnat, advance, openWith, h]
  rfl

/-! ### First bytes -/

/-- The first of three bytes has the highest bits and a range for the second one. -/
lemma lead_three {v : ℕ} (hlow : 0x7ff < v) (hhigh : v ≤ 0xffff) (hvalid : v < 0xD800 ∨ 0xDFFF < v) :
    ∃ least greatest, lead (v / 4096 % 0x10 + 0xe0) = .opens ⟨v / 4096, least, greatest, 1⟩
      ∧ least ≤ v / 64 % 0x40 + 0x80 ∧ v / 64 % 0x40 + 0x80 ≤ greatest := by
  have hquot : v / 4096 % 0x10 = v / 4096 := by omega
  rw [hquot, lead, if_neg (by omega), if_neg (by omega), if_neg (by omega)]
  by_cases hzero : v / 4096 = 0
  · rw [if_pos (by omega), hzero]
    exact ⟨_, _, rfl, by omega, by omega⟩
  · rw [if_neg (by omega)]
    by_cases hsurrogate : v / 4096 = 0xD
    · rw [if_pos (by omega), hsurrogate]
      exact ⟨_, _, rfl, by omega, by omega⟩
    · rw [if_neg (by omega), if_pos (by omega), Nat.add_sub_cancel]
      exact ⟨_, _, rfl, by omega, by omega⟩

/-- The first of four bytes has the highest bits and a range for the second one. -/
lemma lead_four {v : ℕ} (hlow : 0xffff < v) (hhigh : v < 0x110000) :
    ∃ least greatest, lead (v / 262144 % 0x08 + 0xf0) = .opens ⟨v / 262144, least, greatest, 2⟩
      ∧ least ≤ v / 4096 % 0x40 + 0x80 ∧ v / 4096 % 0x40 + 0x80 ≤ greatest := by
  have hquot : v / 262144 % 0x08 = v / 262144 := by omega
  rw [hquot, lead, if_neg (by omega), if_neg (by omega), if_neg (by omega), if_neg (by omega),
    if_neg (by omega), if_neg (by omega)]
  by_cases hzero : v / 262144 = 0
  · rw [if_pos (by omega), hzero]
    exact ⟨_, _, rfl, by omega, by omega⟩
  · rw [if_neg (by omega)]
    by_cases hlast : v / 262144 = 4
    · rw [if_neg (by omega), if_pos (by omega), hlast]
      exact ⟨_, _, rfl, by omega, by omega⟩
    · rw [if_pos (by omega), Nat.add_sub_cancel]
      exact ⟨_, _, rfl, by omega, by omega⟩

/-! ### Characters and texts -/

lemma valid_toNat (c : Char) : c.toNat < 0xD800 ∨ 0xDFFF < c.toNat ∧ c.toNat < 0x110000 := c.valid

/-- **The bytes of a character are decoded as it**, whatever follows. -/
lemma partsFrom_encodeChar (c : Char) (bs : List UInt8) :
    partsFrom none (String.utf8EncodeChar c ++ bs) = some c :: partsFrom none bs := by
  have hvalid := valid_toNat c
  have hchar : Char.ofNat c.toNat = c := Char.ofNat_toNat c
  generalize hv : c.toNat = v at hvalid hchar
  have hv' : c.val.toNat = v := hv
  rw [String.utf8EncodeChar]
  simp only [hv']
  by_cases h1 : v ≤ 0x7f
  · have hnat : (UInt8.ofNat v).toNat = v := toNat_byte (by omega)
    rw [if_pos h1, List.singleton_append, partsFrom, hnat, advance, openWith, lead, if_pos (by omega)]
    simp only [hchar, List.singleton_append]
  · rw [if_neg h1]
    by_cases h2 : v ≤ 0x7ff
    · have hlead : lead (v / 64 % 0x20 + 0xc0) = .opens ⟨v / 64, 0x80, 0xBF, 0⟩ := by
        have hquot : v / 64 % 0x20 = v / 64 := by omega
        rw [hquot, lead, if_neg (by omega), if_neg (by omega), if_pos (by omega), Nat.add_sub_cancel]
      have hbits : v / 64 * 64 + (v % 0x40 + 0x80 - 0x80) = v := by omega
      rw [if_pos h2, List.cons_append, List.singleton_append, partsFrom_opens (by omega) hlead,
        partsFrom_last (by omega) (by omega) (by omega), hbits, hchar]
    · rw [if_neg h2]
      by_cases h3 : v ≤ 0xffff
      · obtain ⟨least, greatest, hlead, hlow, hhigh⟩ := lead_three (by omega) h3 (by omega)
        have hbits : (v / 4096 * 64 + (v / 64 % 0x40 + 0x80 - 0x80)) * 64 + (v % 0x40 + 0x80 - 0x80) = v := by
          omega
        rw [if_pos h3, List.cons_append, List.cons_append, List.singleton_append,
          partsFrom_opens (by omega) hlead, partsFrom_further (by omega) hlow hhigh,
          partsFrom_last (by omega) (by omega) (by omega), hbits, hchar]
      · obtain ⟨least, greatest, hlead, hlow, hhigh⟩ := lead_four (v := v) (by omega) (by omega)
        have hbits : ((v / 262144 * 64 + (v / 4096 % 0x40 + 0x80 - 0x80)) * 64
            + (v / 64 % 0x40 + 0x80 - 0x80)) * 64 + (v % 0x40 + 0x80 - 0x80) = v := by omega
        rw [if_neg h3, List.cons_append, List.cons_append, List.cons_append, List.singleton_append,
          partsFrom_opens (by omega) hlead, partsFrom_further (by omega) hlow hhigh,
          partsFrom_further (by omega) (by omega) (by omega),
          partsFrom_last (by omega) (by omega) (by omega), hbits, hchar]

lemma encodeChars_append (cs ds : List Char) : encodeChars (cs ++ ds) = encodeChars cs ++ encodeChars ds :=
  List.flatMap_append

/-- The bytes of a text are decoded as its characters. -/
lemma parts_encodeChars (cs : List Char) : parts (encodeChars cs) = cs.map some := by
  induction cs with
  | nil => rfl
  | cons c cs ih =>
      rw [parts] at ih ⊢
      rw [encodeChars, List.flatMap_cons, partsFrom_encodeChar, List.map_cons]
      exact congrArg (some c :: ·) ih

/-- **The bytes of a text are decoded as the text.** -/
lemma decode?_encodeChars (cs : List Char) : decode? (encodeChars cs) = some (String.ofList cs) := by
  have hall : (cs.map some).mapM id = some cs := by
    induction cs with
    | nil => rfl
    | cons c cs ih => simp [ih]
  rw [decode?, parts_encodeChars, hall]
  rfl

/-! ### ASCII bytes -/

/-- A character of more than one byte has none below `0x80`. -/
lemma mem_encodeChar {c : Char} {b : UInt8} (h : b ∈ String.utf8EncodeChar c) :
    b.toNat = c.toNat ∨ 0x80 ≤ b.toNat ∧ 0x80 ≤ c.toNat := by
  have hv : c.val.toNat = c.toNat := rfl
  have hvalid := valid_toNat c
  rw [String.utf8EncodeChar] at h
  simp only [hv] at h
  split at h
  · left
    rw [List.mem_singleton.mp h]
    exact toNat_byte (by omega)
  · have hof : ∀ n, 0x80 ≤ n → n < 256 → 0x80 ≤ (UInt8.ofNat n).toNat := by
      intro n hlow hhigh
      rw [toNat_byte hhigh]
      exact hlow
    right
    refine ⟨?_, by omega⟩
    split at h
    · simp only [List.mem_cons, List.not_mem_nil, or_false] at h
      rcases h with rfl | rfl <;> exact hof _ (by omega) (by omega)
    · split at h
      · simp only [List.mem_cons, List.not_mem_nil, or_false] at h
        rcases h with rfl | rfl | rfl <;> exact hof _ (by omega) (by omega)
      · simp only [List.mem_cons, List.not_mem_nil, or_false] at h
        rcases h with rfl | rfl | rfl | rfl <;> exact hof _ (by omega) (by omega)

end Utf8

end LinearProgram
