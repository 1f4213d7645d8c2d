import LinearProgram.Script.Pattern
import LinearProgram.Script.Utility.Regex.Basic

/-!
Sets of characters in regular expressions.

A set stands between brackets. Its members are characters, ranges of them, and classes that have names.

* `Fault`: what can be wrong with an expression, and how it is said.
* `SetMember`: what stands in a set.
* `readSet`: the test that a set writes.
-/

namespace LinearProgram

namespace Script

namespace Regex

/-! ### Faults -/

/-- What can be wrong with an expression. -/
inductive Fault where
  | invalid
  | collation
  | className
  | escape
  | reference
  | bracket
  | groupStart
  | groupEnd
  | interval
  | bounds
  | range
  | size
  | repetition
  /-- A set that looks like the name of a class. -/
  | likeClass
  deriving DecidableEq

/-- What is wrong with an expression, in words. -/
def Fault.message : Fault → String
  | invalid => "Invalid regular expression"
  | collation => "Invalid collation character"
  | className => "Invalid character class name"
  | escape => "Trailing backslash"
  | reference => "Invalid back reference"
  | bracket => "Unmatched [, [^, [:, [., or [="
  | groupStart => "Unmatched ( or \\("
  | groupEnd => "Unmatched ) or \\)"
  | interval => "Unmatched \\\x7b"
  | bounds => "Invalid content of \\\x7b\\\x7d"
  | range => "Invalid range end"
  | size => "Regular expression too big"
  | repetition => "Invalid preceding regular expression"
  | likeClass => "character class syntax is [[:space:]], not [:space:]"

/-! ### Members -/

/-- What stands in a set. -/
inductive SetMember where
  /-- A character, at which a range can begin or end. -/
  | one (c : Char)
  | several (test : Char → Bool)

/-- The longest name of a class or the like. -/
def longestName : Nat := 32

/-- The name up to a sign in front of a closing bracket, and what is behind that. -/
def nameUpTo (mark : Char) : Nat → List Char → Option (List Char × List Char)
  | 0, _ => none
  | fuel + 1, c :: d :: rest =>
    if c = mark && d = ']' then some ([], rest)
    else (nameUpTo mark fuel (d :: rest)).map fun (name, rest) => (c :: name, rest)
  | _, _ => none

/-- Read a member of a set. A hyphen that is not the first or last one is none, unless `hyphen` is set. -/
def readMember (hyphen : Bool) : List Char → Except Fault (SetMember × List Char)
  | [] => .error .bracket
  | '[' :: mark :: rest =>
    if mark ≠ '.' && mark ≠ ':' && mark ≠ '=' then .ok (.one '[', mark :: rest)
    else
      match nameUpTo mark longestName rest with
      | none => .error .bracket
      | some (name, rest) =>
        if mark = ':' then
          match classes.lookup (String.ofList name) with
          | some test => .ok (.several test, rest)
          | none => .error .className
        else
          match name with
          | [c] => .ok (if mark = '.' then .one c else .several fun d => d = c, rest)
          | _ => .error .collation
  | '-' :: rest => if hyphen || rest.head? = some ']' then .ok (.one '-', rest) else .error .range
  | c :: rest => .ok (.one c, rest)

/-- Read the members of a set up to its closing bracket. A bracket that comes first is a member. -/
def readMembers : Nat → Bool → List Char → Except Fault (List (Char → Bool) × List Char)
  | 0, _, _ => .error .bracket
  | _, _, [] => .error .bracket
  | fuel + 1, isFirst, c :: cs =>
    if c = ']' && !isFirst then .ok ([], cs)
    else do
      let (member, rest) ← readMember isFirst (c :: cs)
      let (test, rest) ← match member, rest with
        | .several test, rest => .ok (test, rest)
        | .one a, '-' :: ']' :: rest => .ok (fun c => c = a, '-' :: ']' :: rest)
        | .one a, '-' :: rest => do
          match ← readMember true rest with
          | (.one b, rest) =>
            if b < a then .error .range else .ok (fun c => decide (a ≤ c) && decide (c ≤ b), rest)
          | _ => .error .range
        | .one a, rest => .ok (fun c => c = a, rest)
      let (tests, rest) ← readMembers fuel false rest
      .ok (test :: tests, rest)

/-! ### Sets -/

/-- Whether a set looks like the name of a class. -/
def isLikeClass (members : List Char) : Bool :=
  members.head? = some ':' && members.getLast? = some ':' && decide (2 < members.length) &&
    members.all fun c => c ≠ '[' && c ≠ '-'

/-- Read a set from behind its opening bracket. The test of its members is told, whether the set looks like the name
of a class, and what is behind it. -/
def readSet (folded : Bool) (t : List Char) : Except Fault ((Char → Bool) × Bool × List Char) := do
  let (negated, t) := match t with
    | '^' :: rest => (true, rest)
    | t => (false, t)
  if t.isEmpty then throw .invalid
  let (tests, rest) ← readMembers (t.length + 1) true t
  let written := t.take (t.length - rest.length - 1)
  let holds := foldedTest folded fun c => tests.any fun test => test c
  .ok (fun c => holds c != negated, isLikeClass written, rest)

end Regex

end Script

end LinearProgram
