import LinearProgram.Script.Utility.Line
import LinearProgram.Script.Utility.Sed.Instruction

/-!
Editing the lines of a text.

Each line is taken into the pattern space, the instructions of a script are carried out on it, and what it holds in
the end is written.

* `Line`, `Plan`: what is edited, and how.
* `Editing`: what is remembered from line to line.
* `Editing.passes`: whether an instruction is for the line in the pattern space.
* `Editing.substitute`: a text in the place of what an expression matches.
* `Editing.run`, `Editing.rounds`: instructions that are carried out on a line, and on all of them.
-/

namespace LinearProgram

namespace Script

namespace Utility

/-! ### Lines -/

/-- A line of a text. -/
structure Line where
  text : ByteText
  /-- Whether the end of the line is there. -/
  ended : Bool
  /-- The file that it is from. -/
  path : ByteText
  /-- Whether it counts as the last line. -/
  isLast : Bool
  /-- Whether lines are counted anew from here on. -/
  isFirst : Bool

/-- What stays the same while a text is edited. -/
structure Plan where
  /-- Whether only what instructions write is written. -/
  quiet : Bool
  /-- The character at the end of each line. -/
  lineEnd : Char
  /-- The width of the lines in which a text is shown. -/
  width : Nat
  instructions : Array Instruction
  /-- The contents of files that are read. -/
  files : ByteText → ByteText

/-- The ranges that have begun in front of the first line, by the places of their instructions. -/
def Plan.openRanges (plan : Plan) : List (Nat × Option Nat) :=
  plan.instructions.toList.zipIdx.filterMap fun (i, place) =>
    match i.guard.first, i.guard.last with
    | some (.line 0), some _ => some (place, none)
    | _, _ => none

/-- What is remembered while a text is edited. -/
structure Editing where
  /-- The lines still to be taken. -/
  input : List Line
  /-- The line that has been taken last. -/
  current : Line
  /-- The number of the line that is in the pattern space. -/
  number : Nat
  pattern : ByteText
  /-- Whether the end of the line in the pattern space is there. -/
  ended : Bool
  held : ByteText
  heldEnded : Bool
  /-- What has been written, the last text first. -/
  written : List ByteText
  /-- Whether the end of a line is still to be written before anything else. -/
  owed : Bool
  /-- What is written at the end of the round, the last text first. -/
  queue : List ByteText
  substituted : Bool
  /-- The ranges that have begun, by the place of their instruction, with the line of their end if it is known. -/
  ranges : List (Nat × Option Nat)
  lastRegex : Option Regex
  /-- Texts for other files, the last one first. -/
  filed : List (ByteText × ByteText)
  /-- How many lines of files have been appended. -/
  taken : List (ByteText × Nat)
  /-- What is wrong, so that nothing more is done. -/
  fault : Option String

/-! ### Writing -/

namespace Editing

/-- Editing that is about to begin. -/
def ofLines (plan : Plan) (input : List Line) : Editing :=
  { input, current := ⟨[], true, [], false, false⟩, number := 0, pattern := [], ended := true, held := []
    heldEnded := true, written := [], owed := false, queue := [], substituted := false, ranges := plan.openRanges
    lastRegex := none, filed := [], taken := [], fault := none }

/-- Write a text. -/
def put (plan : Plan) (t : ByteText) (e : Editing) : Editing :=
  if t.isEmpty then e
  else { e with written := t :: (if e.owed then [[plan.lineEnd]] else []) ++ e.written, owed := false }

/-- Write a line, with an end if the line in the pattern space has one. -/
def putLine (plan : Plan) (t : ByteText) (e : Editing) : Editing :=
  let e := { e with written := t :: (if e.owed then [[plan.lineEnd]] else []) ++ e.written, owed := false }
  if e.ended then { e with written := [plan.lineEnd] :: e.written } else { e with owed := true }

/-- Write the end of a line that is still to be written. -/
def settle (plan : Plan) (e : Editing) : Editing :=
  if e.owed then { e with written := [plan.lineEnd] :: e.written, owed := false } else e

/-- The pattern space as a line, or its first line. -/
def lineOf (plan : Plan) (whole : Bool) (e : Editing) : ByteText :=
  if !whole && e.pattern.contains plan.lineEnd then
    (e.pattern.takeWhile fun c => c ≠ plan.lineEnd) ++ [plan.lineEnd]
  else e.pattern ++ (if e.ended then [plan.lineEnd] else [])

/-- Write the pattern space, or its first line, to a file. -/
def putTo (plan : Plan) (whole : Bool) (path : ByteText) (e : Editing) : Editing :=
  if path = "/dev/stdout".toList then
    if whole || !e.pattern.contains plan.lineEnd then e.putLine plan e.pattern else e.put plan (e.lineOf plan false)
  else { e with filed := (path, e.lineOf plan whole) :: e.filed }

/-- Write what waits for the end of the round. -/
def flush (plan : Plan) (e : Editing) : Editing :=
  { e.queue.reverse.foldl (fun e t => e.put plan t) e with queue := [] }

/-- Take the next line, if there is one. -/
def advance? (plan : Plan) (e : Editing) : Option (ByteText × Editing) :=
  match e.input with
  | [] => none
  | l :: input =>
    let e := { e.flush plan with input, current := l, ended := l.ended, number := e.number + 1 }
    some (l.text, if l.isFirst then { e with number := 1, ranges := plan.openRanges } else e)

/-- Put down that there is no expression that has been used before. -/
def lacking (e : Editing) : Editing := { e with fault := some "no previous regular expression" }

/-! ### Lines that are meant -/

/-- The expression that is used, which is the one that was used last if there is none. -/
def regex (e : Editing) (r : Option Regex) : Option Regex := r.orElse fun _ => e.lastRegex

/-- Whether an address means the line in the pattern space. -/
def isAt (e : Editing) : Address → Bool × Editing
  | .line n => (e.number = n, e)
  | .every first step =>
    (if step = 0 then e.number = first else decide (first ≤ e.number) && (e.number - first) % step = 0, e)
  | .last => (e.current.isLast, e)
  | .matching r =>
    match e.regex r with
    | some r => ((r.find (Regex.subject e.pattern) 0).isSome, { e with lastRegex := some r })
    | none => (false, e.lacking)

/-- Whether a range ends on the very line on which it begins, or the line of its end if that is known. -/
def rangeStart (e : Editing) : RangeEnd → Bool × Option Nat
  | .at (.line n) => (n ≤ e.number, some n)
  | .at .last => (e.current.isLast, none)
  | .at _ => (false, none)
  | .behind n => (n = 0, some (e.number + n))
  | .multiple n => (n = 0 || e.number % n = 0, some ((e.number / max n 1 + 1) * n))

/-- The editing without a range. -/
def endRange (e : Editing) (place : Nat) : Editing :=
  { e with ranges := e.ranges.filter fun r => r.1 ≠ place }

/-- Whether a guard lets the line in the pattern space through to the instruction at a place. -/
def passes (e : Editing) (place : Nat) (g : Guard) : Bool × Editing :=
  let (holds, e) := match g.first, g.last with
    | none, _ => (true, e)
    | some a, none => e.isAt a
    | some a, some last =>
      match e.ranges.lookup place with
      | some (some stop) =>
        let e := if stop ≤ e.number then e.endRange place else e
        if e.number ≤ stop then (true, e) else e.isAt a
      | some none =>
        match last with
        | .at address =>
          let (ends, e) := e.isAt address
          (true, if ends then e.endRange place else e)
        | _ => (true, e)
      | none =>
        let (begins, e) := e.isAt a
        if begins then
          let (short, stop) := e.rangeStart last
          (true, if short then e else { e with ranges := (place, stop) :: e.ranges })
        else (false, e)
  (holds != g.negated, e)

/-! ### Substitutions -/

/-- A text with its letters changed. -/
def cased (c : Casing) (t : ByteText) : ByteText :=
  match c with
  | .asItIs => t
  | .upper => .ofCharacters (t.characters.map Regex.capitalOf)
  | .lower => .ofCharacters (t.characters.map Regex.smallOf)

/-- The text that a replacement comes to for a match. -/
def replaced (t : Array Char) (m : Regex.Match) : Casing → Option Casing → List ReplacementPart → ByteText
  | _, _, [] => []
  | _, _, .casing c false :: parts => replaced t m c none parts
  | all, _, .casing c true :: parts => replaced t m all (some c) parts
  | all, once, .text s :: parts => add all once s ++ replaced t m all (if s.isEmpty then once else none) parts
  | all, once, .group n :: parts =>
    let s := m.groupText t n
    add all once s ++ replaced t m all (if s.isEmpty then once else none) parts
where
  /-- A text with its letters changed, the first one perhaps in another way. -/
  add (all : Casing) (once : Option Casing) (s : ByteText) : ByteText :=
    match once with
    | some c =>
      let first := .ofCharacters (s.characters.take 1)
      cased c first ++ cased all (s.drop first.length)
    | none => cased all s

/-- The text behind a place after a substitution, and whether anything has been replaced. The numbers are those of
the matches so far and of the place where the last one ended. -/
def substitutedFrom (s : Substitution) (r : Regex) (t : Array Char) : Nat → Nat → Nat → Option Nat → ByteText × Bool
  | 0, place, _, _ => (Regex.slice t place t.size, false)
  | fuel + 1, place, count, last =>
    match r.find t place with
    | none => (Regex.slice t place t.size, false)
    | some m =>
      let front := Regex.slice t place m.start
      if m.start = m.stop then
        let after := Regex.slice t m.stop (m.stop + 1)
        if last = some m.start then
          let (rest, done) := resume fuel m.stop (m.stop + 1) count none
          (front ++ after ++ rest, done)
        else if count + 1 < s.nth then
          let (rest, done) := resume fuel m.stop (m.stop + 1) (count + 1) none
          (front ++ after ++ rest, done)
        else
          let (rest, _) := if s.everywhere then resume fuel m.stop (m.stop + 1) (count + 1) none
            else (Regex.slice t (m.stop + 1) t.size, false)
          (front ++ replaced t m .asItIs none s.replacement ++ after ++ rest, true)
      else if count + 1 < s.nth then
        let (rest, done) := substitutedFrom s r t fuel m.stop (count + 1) (some m.stop)
        (front ++ Regex.slice t m.start m.stop ++ rest, done)
      else
        let (rest, _) := if s.everywhere then substitutedFrom s r t fuel m.stop (count + 1) (some m.stop)
          else (Regex.slice t m.stop t.size, false)
        (front ++ replaced t m .asItIs none s.replacement ++ rest, true)
where
  /-- Go on from a place, unless the text ends in front of it. -/
  resume (fuel stop place count : Nat) (last : Option Nat) : ByteText × Bool :=
    if t.size ≤ stop then ([], false) else substitutedFrom s r t fuel place count last

/-- Carry out a substitution. -/
def substitute (plan : Plan) (s : Substitution) (e : Editing) : Editing :=
  match e.regex s.pattern with
  | none => e.lacking
  | some r =>
    let t := Regex.subject e.pattern
    let (pattern, done) := substitutedFrom s r t (t.size + 2) 0 0 none
    let e := { e with lastRegex := some r }
    if done then
      let e := { e with pattern, substituted := true }
      let e := if s.shown then e.putLine plan pattern else e
      match s.target with
      | some path => e.putTo plan true path
      | none => e
    else e

/-! ### Instructions -/

/-- Signs one behind the other in lines of a width, a backslash at the end of each but the last. -/
def wrapped (width : Nat) : Nat → List ByteText → ByteText
  | _, [] => []
  | column, sign :: signs =>
    if 1 < width && width ≤ column + sign.length then "\\\n".toList ++ sign ++ wrapped width sign.length signs
    else sign ++ wrapped width (column + sign.length) signs

/-- A text in which every character can be seen, in lines of a width. -/
def visible (width : Nat) (t : ByteText) : ByteText :=
  let sign (c : Char) : ByteText :=
    match (escapes.filter fun e => e.1 ≠ '\\' && e.1 ≠ 'e').find? fun e => e.2 = c with
    | some (letter, _) => ['\\', letter]
    | none =>
      if c = '\\' then ['\\', '\\']
      else if ' ' ≤ c && c ≤ '~' then [c]
      else
        let ds := Nat.toDigits 8 c.toNat
        '\\' :: (List.replicate (3 - ds.length) '0' ++ ds)
  wrapped width 0 (t.map sign) ++ ['$']

/-- The place behind the end of the block that begins in front of some instructions at a place. -/
def afterBlock : Nat → Nat → List Instruction → Nat
  | place, _, [] => place
  | place, depth, i :: is =>
    match i.action, depth with
    | .begin, depth => afterBlock (place + 1) (depth + 1) is
    | .close, 0 => place + 1
    | .close, depth + 1 => afterBlock (place + 1) depth is
    | _, depth => afterBlock (place + 1) depth is

/-- How a round ends. -/
inductive RoundEnd where
  /-- What the pattern space holds is written. -/
  | shown
  | silent
  /-- The next round begins with what is left in the pattern space. -/
  | again
  | left (shown : Bool) (code : Nat)

/-- The instruction behind the label with a name; the empty name means the end. -/
def target (plan : Plan) (label : ByteText) : Nat :=
  if label.isEmpty then plan.instructions.size
  else (plan.instructions.toList.findIdx? fun i => match i.action with
    | .label name => name == label
    | _ => false).getD plan.instructions.size

/-- Queue one more line of a file. -/
def queueLine (plan : Plan) (path : ByteText) (e : Editing) : Editing :=
  let count := (e.taken.lookup path).getD 0
  match (rawLines (plan.files path))[count]? with
  | some l => { e with queue := l :: e.queue, taken := (path, count + 1) :: e.taken }
  | none => e

/-- Carry out instructions from a place on. The number bounds how many are carried out. -/
def run (plan : Plan) : Nat → Nat → Editing → RoundEnd × Editing
  | 0, _, e => (.left false 1, e)
  | fuel + 1, place, e =>
    match plan.instructions[place]? with
    | none => (.shown, e)
    | some i =>
      let (holds, e) := e.passes place i.guard
      let goOn (e : Editing) : RoundEnd × Editing := run plan fuel (place + 1) e
      if e.fault.isSome then (.left false 1, e)
      else if !holds then
        match i.action with
        | .begin => run plan fuel (afterBlock (place + 1) 0 (plan.instructions.toList.drop (place + 1))) e
        | _ => goOn e
      else
        match i.action with
        | .begin => goOn e
        | .close => goOn e
        | .label _ => goOn e
        | .nothing => goOn e
        | .jump condition label =>
          let taken := condition = .always || (condition = .substituted) == e.substituted
          let e := if condition = .always then e else { e with substituted := false }
          if taken then run plan fuel (target plan label) e else goOn e
        | .append t => goOn { e with queue := t :: e.queue }
        | .insert t => goOn (e.put plan t)
        | .change t =>
          let pending := (e.ranges.lookup place).isSome && !i.guard.negated
          (.silent, if pending then e else e.put plan t)
        | .appendFile path => goOn { e with queue := plan.files path :: e.queue }
        | .appendLine path => goOn (e.queueLine plan path)
        | .writeTo whole path => goOn (e.putTo plan whole path)
        | .delete => (.silent, e)
        | .deleteLine =>
          if e.pattern.contains plan.lineEnd then
            (.again, { e with pattern := (e.pattern.dropWhile fun c => c ≠ plan.lineEnd).drop 1 })
          else (.silent, e)
        | .print => goOn (e.putLine plan e.pattern)
        | .printLine => goOn (e.putTo plan false "/dev/stdout".toList)
        | .list width => goOn (e.put plan (visible (width.getD plan.width) e.pattern ++ [plan.lineEnd]))
        | .next =>
          if e.current.isLast then (.shown, e)
          else
            let e := if plan.quiet then e else e.putLine plan e.pattern
            match e.advance? plan with
            | some (l, e) => goOn { e with pattern := l }
            | none => (.shown, e)
        | .join =>
          match if e.current.isLast then none else e.advance? plan with
          | some (l, next) => goOn { next with pattern := e.pattern ++ plan.lineEnd :: l }
          | none => (.shown, e)
        | .quit shown code => (.left shown code, e)
        | .hold true =>
          goOn { e with held := e.held ++ plan.lineEnd :: e.pattern, heldEnded := e.ended }
        | .hold false => goOn { e with held := e.pattern, heldEnded := e.ended }
        | .fetch true =>
          goOn { e with pattern := e.pattern ++ plan.lineEnd :: e.held, ended := e.heldEnded }
        | .fetch false => goOn { e with pattern := e.held, ended := e.heldEnded }
        | .exchange =>
          goOn { e with pattern := e.held, ended := e.heldEnded, held := e.pattern, heldEnded := e.ended }
        | .number => goOn (e.put plan (.ofNat e.number ++ [plan.lineEnd]))
        | .fileName => goOn (e.put plan (e.current.path ++ [plan.lineEnd]))
        | .clear => goOn { e with pattern := [] }
        | .substitute s =>
          let e := e.substitute plan s
          if e.fault.isSome then (.left false 1, e) else goOn e
        | .transliterate table =>
          goOn { e with pattern := .ofCharacters (e.pattern.characters.map fun c => (table.lookup c).getD c) }

/-- How many instructions are carried out in a round, and how many rounds there are, at most. -/
def patience : Nat := 1000000

/-- Edit line by line, and tell the exit code. -/
def rounds (plan : Plan) : Nat → Bool → Editing → Nat × Editing
  | 0, _, e => (1, e)
  | fuel + 1, fresh, e =>
    let begun :=
      if fresh then (e.advance? plan).map fun (l, e) => { e with pattern := l, substituted := false } else some e
    match begun with
    | none => (0, e)
    | some e =>
      let (ending, e) := run plan patience 0 e
      let shown (e : Editing) : Editing := if plan.quiet then e else e.putLine plan e.pattern
      match ending with
      | .shown => rounds plan fuel true ((shown e).flush plan)
      | .silent => rounds plan fuel true (e.flush plan)
      | .again => rounds plan fuel false (e.flush plan)
      | .left true code => (code, ((shown e).settle plan).flush plan)
      | .left false code => (code, e)

end Editing

end Utility

end Script

end LinearProgram
