import LinearProgram.Script.Stream

/-!
Patterns for texts and for the names of files.

A question mark stands for any character, an asterisk for any text, and brackets for one of some characters. Quoting a
sign takes away its meaning, so patterns are made of marked text. A backslash out of a parameter quotes too.

* `Marked`: text with quoted and unquoted characters.
* `Pattern`, `Pattern.accepts`: what a pattern consists of, and the texts that it matches.
* `trimmed`: a text without what a pattern matches at one of its ends.
* `pathsMatching`: the paths of files that a pattern matches.
-/

namespace LinearProgram

namespace Script

/-- A text, each character with whether it is quoted. -/
abbrev Marked := List (Char × Bool)

/-- A text in which each backslash that is not quoted, as a parameter may have it, quotes the character behind it. The
last character of a text quotes nothing. -/
def withEscapes : Marked → Marked
  | ('\\', false) :: (c, _) :: m => (c, true) :: withEscapes m
  | e :: m => e :: withEscapes m
  | [] => []

/-- The text without its marks. -/
def plainOf (m : Marked) : ByteText := m.map Prod.fst

/-- A text with the same mark for each character. -/
def markedOf (quoted : Bool) (t : ByteText) : Marked := t.map fun c => (c, quoted)

/-! ### Sets of characters -/

/-- The classes of characters that have names. -/
def classes : List (String × (Char → Bool)) :=
  [("alpha", Char.isAlpha), ("digit", Char.isDigit), ("alnum", Char.isAlphanum), ("upper", Char.isUpper),
   ("lower", Char.isLower), ("space", fun c => " \t\n\r\x0b\x0c".toList.contains c), ("blank", isGap),
   ("punct", fun c => decide ('!' ≤ c) && decide (c ≤ '~') && !c.isAlphanum),
   ("print", fun c => decide (' ' ≤ c) && decide (c ≤ '~')), ("graph", fun c => decide ('!' ≤ c) && decide (c ≤ '~')),
   ("cntrl", fun c => c < ' ' || c = '\x7f'),
   ("xdigit", fun c => c.isDigit || "abcdefABCDEF".toList.contains c)]

/-- The class that a text begins with behind the brackets of its name, and the rest. -/
def classOf? (t : ByteText) : Option ((Char → Bool) × ByteText) := do
  let name := t.takeWhile fun c => c ≠ ':'
  let test ← classes.lookup (String.ofList name)
  match t.drop name.length with
  | ':' :: ']' :: rest => some (test, rest)
  | _ => none

/-- The place of a character in the order that ranges go by: those beyond ASCII come first. -/
def rangeKey (c : Char) : Int := if c.toNat < 0x80 then c.toNat else (c.toNat : Int) - 0x100

/-- Whether a character lies in a range. -/
def inRange (first last c : Char) : Bool :=
  decide (rangeKey first ≤ rangeKey c) && decide (rangeKey c ≤ rangeKey last)

/-- The tests for the members of a set, up to its closing bracket, and the rest. A bracket that comes first is a
member, and so is a sign that is quoted. -/
def readSet : Nat → Bool → Marked → Option (List (Char → Bool) × Marked)
  | 0, _, _ => none
  | _, _, [] => none
  | _, false, (']', false) :: rest => some ([], rest)
  | fuel + 1, _, ('[', false) :: (':', false) :: rest =>
    match classOf? (plainOf rest) with
    | some (test, behind) => do
      let (tests, rest) ← readSet fuel false (rest.drop (rest.length - behind.length))
      return (test :: tests, rest)
    | none => do
      let (tests, rest) ← readSet fuel false ((':', false) :: rest)
      return ((fun c => c = '[') :: tests, rest)
  | fuel + 1, _, (a, _) :: ('-', false) :: (b, quoted) :: rest =>
    if b = ']' && !quoted then do
      let (tests, rest) ← readSet fuel false (('-', false) :: (b, quoted) :: rest)
      return ((fun c => c = a) :: tests, rest)
    else do
      let (tests, rest) ← readSet fuel false rest
      return (inRange a b :: tests, rest)
  | fuel + 1, _, (a, _) :: rest => do
    let (tests, rest) ← readSet fuel false rest
    return ((fun c => c = a) :: tests, rest)

/-- The test of a set from behind its opening bracket, and the rest. The sign `negation` turns the set into its
complement where it comes first. -/
def setOf? (negation : Char) (m : Marked) : Option ((Char → Bool) × Marked) :=
  match m with
  | [] => none
  | (c, quoted) :: cs =>
    if c = negation && !quoted then do
      let (tests, rest) ← readSet (cs.length + 1) true cs
      return (fun c => !tests.any fun test => test c, rest)
    else do
      let (tests, rest) ← readSet (m.length + 1) true m
      return (fun c => tests.any fun test => test c, rest)

/-! ### Patterns -/

/-- A part of a pattern. -/
inductive PatternPart where
  /-- A character that passes a test. -/
  | one (test : Char → Bool)
  /-- Any text. -/
  | many

/-- A pattern. -/
abbrev Pattern := List PatternPart

/-- The pattern of a marked text. A bracket without a partner stands for itself. -/
def patternFrom : Nat → Marked → Pattern
  | 0, _ => []
  | _, [] => []
  | fuel + 1, (c, quoted) :: m =>
    if quoted then .one (fun d => d = c) :: patternFrom fuel m
    else if c = '*' then .many :: patternFrom fuel m
    else if c = '?' then .one (fun _ => true) :: patternFrom fuel m
    else if c = '[' then
      match setOf? '!' m with
      | some (test, rest) => .one test :: patternFrom fuel rest
      | none => .one (fun d => d = c) :: patternFrom fuel m
    else .one (fun d => d = c) :: patternFrom fuel m

/-- What remains of a text when more and more of its beginning is taken away. -/
def suffixes : ByteText → List ByteText
  | [] => [[]]
  | c :: cs => (c :: cs) :: suffixes cs

namespace Pattern

/-- The pattern of a marked text. -/
def ofMarked (m : Marked) : Pattern := patternFrom m.length (withEscapes m)

/-- Whether a pattern matches the whole of a text. -/
def accepts : Pattern → ByteText → Bool
  | [], t => t.isEmpty
  | .one test :: ps, c :: cs => test c && accepts ps cs
  | .one _ :: _, [] => false
  | .many :: ps, t => (suffixes t).any fun s => accepts ps s

end Pattern

/-- A text without what a pattern matches at one of its ends. -/
def trimmed (part : Trim) (pattern : Pattern) (t : ByteText) : ByteText :=
  let cuts := List.range (t.length + 1)
  let atStart (n : Nat) := pattern.accepts (t.take n)
  let atEnd (n : Nat) := pattern.accepts (t.drop n)
  match part with
  | .shortestStart => ((cuts.find? atStart).map t.drop).getD t
  | .longestStart => ((cuts.reverse.find? atStart).map t.drop).getD t
  | .shortestEnd => ((cuts.reverse.find? atEnd).map t.take).getD t
  | .longestEnd => ((cuts.find? atEnd).map t.take).getD t

/-- The last argument with an end that a pattern matches, cut short in front of the shortest such end, and the
arguments before it. They are in reverse order, and so is the result. -/
def trimmedLast? (pattern : Pattern) : List ByteText → Option (List ByteText)
  | [] => none
  | t :: before =>
    match (List.range (t.length + 1)).reverse.find? fun n => pattern.accepts (t.drop n) with
    | some n => some (t.take n :: before)
    | none => trimmedLast? pattern before

/-- Arguments without what a pattern matches at one of their ends. They are taken as one text in which each of them
has an end: a beginning is looked for in the first one only, and with an end go all arguments behind it. -/
def trimmedAmong (part : Trim) (pattern : Pattern) (arguments : List ByteText) : List ByteText :=
  match arguments with
  | [] => [[]]
  | first :: others =>
    match part with
    | .shortestStart => trimmed part pattern first :: others
    | .longestStart => if pattern.accepts first then [[]] else trimmed part pattern first :: others
    | .shortestEnd => ((trimmedLast? pattern arguments.reverse).map List.reverse).getD arguments
    | .longestEnd =>
      if (suffixes first).any pattern.accepts then [trimmed part pattern first] else arguments

/-! ### Names of files -/

/-- Whether a marked text has a sign with a meaning. A bracket has one only if another one can close it. -/
def isActive (m : Marked) : Bool :=
  let holds (c : Char) : Bool := m.any fun e => !e.2 && e.1 = c
  holds '*' || holds '?' || holds '[' && holds ']'

/-- The paths behind `path`, which is empty or ends in a slash, whose names match patterns one by one. -/
def pathsFrom (fs : Files) (seen : ByteText → String) : ByteText → List Marked → List ByteText
  | path, [] => [path]
  | path, [name] =>
    if isActive name then (namesMatching path name).map fun n => path ++ n
    else if fs.holds (seen (path ++ plainOf name)) then [path ++ plainOf name]
    else []
  | path, name :: names =>
    let found := if isActive name then namesMatching path name else [plainOf name]
    found.flatMap fun n => pathsFrom fs seen (path ++ n ++ ['/']) names
where
  /-- The names in the directory of a path that match a pattern. A dot in front must be matched by itself. -/
  namesMatching (path : ByteText) (name : Marked) : List ByteText :=
    match fs.find (seen (if path.isEmpty then ['.'] else path)) with
    | .ok (place, .directory) =>
      let pattern := Pattern.ofMarked name
      let hidden := (name.head?.map Prod.fst) = some '.'
      let names := ['.'] :: ['.', '.'] :: (fs.namesIn place).map ByteText.ofString
      names.filter fun n => (hidden || n.head? ≠ some '.') && pattern.accepts n
    | _ => []

/-- The paths of files that a marked text matches, in the order of their bytes; none if no sign in it has a
meaning. -/
def pathsMatching (m : Marked) : Shell (List ByteText) := do
  let p ← get
  let m := withEscapes m
  if !isActive m then pure []
  else
    let seen (t : ByteText) : String :=
      if t.head? = some '/' then t.string else Shell.placeText p.directory ++ "/" ++ t.string
    let names := pieces (fun e : Char × Bool => e.1 = '/') m
    let found := match names with
      | [] :: names => pathsFrom p.world.files seen ['/'] names
      | names => pathsFrom p.world.files seen [] names
    pure (found.mergeSort ByteText.inOrder)

end Script

end LinearProgram
