import LinearProgram.Script.Pattern
import LinearProgram.Text.Lower

/-!
Regular expressions.

A match is looked for from left to right, and of those that begin at one place the longest is taken.

* `Regex`: expressions.
* `Spot`, `Regex.ends`: where a match that begins at a place can end, with the groups that it has gone through.
* `Regex.find`: the first match in a text.
* `Regex.subject`, `Regex.slice`: a text as the characters that are matched, and the text between two of their places.
-/

namespace LinearProgram

namespace Script

/-- A regular expression. -/
inductive Regex where
  /-- The text that is empty. -/
  | empty
  /-- A character that passes a test. -/
  | one (test : Char → Bool)
  /-- A place where the characters on both sides pass a test. -/
  | between (test : Option Char → Option Char → Bool)
  | sequence (first second : Regex)
  | either (first second : Regex)
  /-- An expression repeated a number of times, at most the second number if there is one. -/
  | repeated (low : Nat) (high : Option Nat) (inner : Regex)
  /-- An expression with a number, under which what it matches is known. -/
  | group (number : Nat) (inner : Regex)
  /-- What the group with a number has matched, small and capital letters perhaps being the same. -/
  | again (number : Nat) (folded : Bool)

namespace Regex

/-- The number of groups in an expression. -/
def groupCount : Regex → Nat
  | sequence a b => a.groupCount + b.groupCount
  | either a b => a.groupCount + b.groupCount
  | repeated _ _ a => a.groupCount
  | group _ a => a.groupCount + 1
  | _ => 0

/-! ### Letters and places -/

/-- Whether a character is part of a word. -/
def isWordChar (c : Char) : Bool :=
  c.isAlphanum || c = '_' || decide (0x80 ≤ c.toNat) && inRanges casedRanges c.toNat

/-- Whether a side of a place is part of a word. -/
def isWordSide (c : Option Char) : Bool := (c.map isWordChar).getD false

/-- The small letter of a letter. -/
def smallOf (c : Char) : Char := if c.toNat < 0x80 then c.toLower else (lowerOne c).headD c

/-- The capital letter of a letter. -/
def capitalOf (c : Char) : Char := if c.toNat < 0x80 then c.toUpper else upperOne c

/-- A test that does not tell small and capital letters apart. -/
def foldedTest (folded : Bool) (test : Char → Bool) : Char → Bool :=
  if folded then fun c => test c || test (smallOf c) || test (capitalOf c) else test

/-- The beginning of the text. -/
def start : Regex := .between fun before _ => before.isNone

/-- The end of the text. -/
def stop : Regex := .between fun _ after => after.isNone

/-- The expression that matches nothing but a text. -/
def ofText (folded : Bool) (t : ByteText) : Regex :=
  t.characters.foldr (fun c r => .sequence (.one (foldedTest folded fun d => d = c)) r) .empty

/-! ### Matching -/

/-- A place in a text, and where the groups that have been gone through begin and end. -/
structure Spot where
  place : Nat
  groups : List (Nat × Nat × Nat)

/-- The first spot of each place. -/
def distinctSpots : List Spot → List Spot
  | [] => []
  | s :: ss => s :: (distinctSpots ss).filter fun e => e.place ≠ s.place

/-- The spots that are reached in any number of rounds from some spots, those of later rounds first. Spots at a place
that has been reached before count only as long as more rounds are needed. -/
def rounds (step : Spot → List Spot) : Nat → Nat → Option Nat → List Spot → List Spot → List Spot
  | 0, _, _, _, reached => reached
  | fuel + 1, low, high, now, reached =>
    let reached := if low = 0 then now ++ reached else reached
    if high = some 0 || now.isEmpty then reached
    else
      let next := distinctSpots (now.flatMap step)
      let next := if low = 0 then next.filter fun s => !reached.any fun r => r.place = s.place else next
      rounds step fuel (low - 1) (high.map fun h => h - 1) next reached

/-- The number of characters from a place on that pass a test, up to a bound. -/
def runLength (t : Array Char) (test : Char → Bool) : Nat → Nat → Nat
  | 0, _ => 0
  | bound + 1, place =>
    match t[place]? with
    | some c => if test c then runLength t test bound (place + 1) + 1 else 0
    | none => 0

/-- The spots at which a match from a spot can end; the ones that are preferred come first. -/
def ends (t : Array Char) : Regex → Spot → List Spot
  | empty, s => [s]
  | one test, s =>
    match t[s.place]? with
    | some c => if test c then [{ s with place := s.place + 1 }] else []
    | none => []
  | between test, s =>
    if test (if s.place = 0 then none else t[s.place - 1]?) t[s.place]? then [s] else []
  | sequence a b, s => distinctSpots ((ends t a s).flatMap fun e => ends t b e)
  | either a b, s => distinctSpots (ends t a s ++ ends t b s)
  | repeated low high (one test), s =>
    let most := runLength t test (high.getD t.size) s.place
    if most < low then []
    else (List.range (most - low + 1)).map fun n => { s with place := s.place + (most - n) }
  | repeated low high a, s => rounds (fun s => ends t a s) (t.size + low + 2) low high [s] []
  | group n a, s => (ends t a s).map fun e => { e with groups := (n, s.place, e.place) :: e.groups }
  | again n folded, s =>
    match s.groups.lookup n with
    | some (a, b) =>
      let seen := fun c => if folded then smallOf c else c
      let piece := (t.extract a b).toList.map seen
      let there := (t.extract s.place (s.place + piece.length)).toList.map seen
      if piece = there then [{ s with place := s.place + piece.length }] else []
    | none => []

/-- A match: where it begins and ends, and where its groups do. -/
structure Match where
  start : Nat
  stop : Nat
  groups : List (Nat × Nat × Nat)

/-- The longest match that begins at a place and passes a test on where it ends. -/
def matchAt (r : Regex) (t : Array Char) (fits : Nat → Nat → Bool) (place : Nat) : Option Match :=
  let found := (r.ends t ⟨place, []⟩).filter fun e => fits place e.place
  let best := found.foldl (fun best e => match best with
    | some (b : Spot) => if b.place < e.place then some e else some b
    | none => some e) none
  best.map fun e => ⟨place, e.place, e.groups⟩

/-- The first match from a place on that passes a test on where it begins and ends. -/
def findFrom (r : Regex) (t : Array Char) (fits : Nat → Nat → Bool) : Nat → Nat → Option Match
  | 0, _ => none
  | tries + 1, place =>
    match r.matchAt t fits place with
    | some m => some m
    | none => findFrom r t fits tries (place + 1)

/-- The first match in a text from a place on. -/
def find (r : Regex) (t : Array Char) (place : Nat) : Option Match :=
  r.findFrom t (fun _ _ => true) (t.size + 1 - place) place

/-- A text as what is looked through: its characters. -/
def subject (t : ByteText) : Array Char := t.characters.toArray

/-- The text between two places. -/
def slice (t : Array Char) (a b : Nat) : ByteText := .ofCharacters (t.extract a b).toList

/-- What a group has matched. -/
def Match.groupText (m : Match) (t : Array Char) (n : Nat) : ByteText :=
  if n = 0 then slice t m.start m.stop
  else
    match m.groups.lookup n with
    | some (a, b) => slice t a b
    | none => []

end Regex

end Script

end LinearProgram
