import LinearProgram.Script.Arithmetic
import LinearProgram.Script.Utility.Sed.Instruction

/-!
Reading scripts of instructions for editing.

A script is made of pieces, each of which is read as lines of its own. A fault is told with the place in the script
where it shows.

* `Manner`: how a script is read.
* `Editor.upTo`: texts between signs.
* `Editor.guardAt`, `Editor.actionAt`: the parts of an instruction.
* `Editor.read`: the instructions that a script writes.
-/

namespace LinearProgram

namespace Script

namespace Utility

namespace Editor

/-- How a script is read. -/
structure Manner where
  /-- Whether expressions are in the extended notation. -/
  extended : Bool
  /-- How much is left of the script at the ends of its pieces. -/
  joints : List Nat

/-- Whether a piece of the script ends in front of what is left of it. -/
def Manner.isEnd (m : Manner) (rest : ByteText) : Bool := rest.isEmpty || m.joints.contains rest.length

/-- What is wrong with a script. -/
inductive ScriptFault where
  /-- The fault shows in front of what is left of the script. -/
  | found (reason : String) (rest : ByteText)
  /-- The fault shows in the script as a whole, or in front of it. -/
  | whole (located : Bool) (reason : String)

/-- What is read, and what is left of the script. -/
abbrev ReadResult (α : Type) := Except ScriptFault α

/-- A fault that shows in front of what is left. -/
def refuseAt {α : Type} (reason : String) (rest : ByteText) : ReadResult α := .error (.found reason rest)

/-! ### Characters behind a backslash -/

/-- The number that digits to a base, at most so many of them, make of the beginning of a text. -/
def codeAt (base most : Nat) (t : ByteText) : Option (Char × ByteText) :=
  let isDigitOf (c : Char) : Bool := (hexValue? c).any fun d => decide (d < base)
  let digits := (t.take most).takeWhile isDigitOf
  let code := digits.foldl (fun n c => n * base + (hexValue? c).getD 0) 0
  if digits.isEmpty then none else some (Char.ofNat (code % 256), t.drop digits.length)

/-- The character that a letter behind a backslash and what follows it tell, and what is behind it. -/
def escapeAt? (letter : Char) (t : ByteText) : Option (Char × ByteText) :=
  match letter with
  | 'a' => some ('\x07', t)
  | 'f' => some ('\x0c', t)
  | 'r' => some ('\r', t)
  | 't' => some ('\t', t)
  | 'v' => some ('\x0b', t)
  | 'c' => t.head?.map fun c => (Char.ofNat (Nat.xor c.toUpper.toNat 64), t.drop 1)
  | 'd' => codeAt 10 3 t
  | 'o' => codeAt 8 3 t
  | 'x' => codeAt 16 2 t
  | _ => none

/-- A text with characters in the place of what tells them. Those in `kept` go on standing behind a backslash. -/
def unescaped (kept : List Char) : Nat → ByteText → ByteText
  | 0, t => t
  | fuel + 1, '\\' :: c :: cs =>
    match escapeAt? c cs with
    | some (image, rest) =>
      if kept.contains image then '\\' :: image :: unescaped kept fuel rest else image :: unescaped kept fuel rest
    | none => '\\' :: c :: unescaped kept fuel cs
  | fuel + 1, c :: cs => c :: unescaped kept fuel cs
  | _, [] => []

/-! ### Texts between signs -/

/-- The length of the members of a set, from behind its opening bracket to its closing one, if it has one in the line.
-/
def setLength? : Nat → Bool → ByteText → Option Nat
  | 0, _, _ => none
  | fuel + 1, isFirst, t =>
    match isFirst, t with
    | _, [] => none
    | true, '^' :: ']' :: rest => (setLength? fuel false rest).map (· + 2)
    | true, '^' :: rest => (setLength? fuel false rest).map (· + 1)
    | true, ']' :: rest => (setLength? fuel false rest).map (· + 1)
    | _, ']' :: _ => some 1
    | _, '[' :: mark :: rest =>
      if ".:=".toList.contains mark then
        match Regex.nameUpTo mark (rest.length + 1) rest with
        | some (name, behind) => (setLength? fuel false behind).map (· + name.length + 4)
        | none => none
      else (setLength? fuel false (mark :: rest)).map (· + 1)
    | _, c :: rest => if c = '\n' then none else (setLength? fuel false rest).map (· + 1)

/-- The text up to a sign that is not behind a backslash, and what is behind the sign. In an expression, signs in sets
do not count. If there is no sign in the line, what is behind the text is told. -/
def upTo (mark : Char) (isRegex : Bool) : Nat → ByteText → Except ByteText (ByteText × ByteText)
  | 0, t => .error t
  | _, [] => .error []
  | fuel + 1, c :: cs =>
    let behind (t rest : ByteText) : Except ByteText (ByteText × ByteText) := do
      let (more, rest) ← upTo mark isRegex fuel rest
      .ok (t ++ more, rest)
    if c = '\n' then .error (c :: cs)
    else if c = mark then .ok ([], cs)
    else if c = '\\' then
      match cs with
      | [] => .error []
      | c :: cs =>
        if isRegex && c = 'n' then behind ['\n'] cs
        else if isRegex && c = '\n' then behind [c] cs
        else if c = mark && (isRegex || c ≠ '&') then behind [c] cs
        else behind ['\\', c] cs
    else if c = '[' && isRegex then
      match setLength? (cs.length + 1) true cs with
      | some length => behind (c :: setText (cs.take length)) (cs.drop length)
      | none => .error (cs.dropWhile fun c => c ≠ '\n')
    else behind [c] cs
where
  /-- The members of a set, in which the end of a line is written in another way. -/
  setText : ByteText → ByteText
    | '\\' :: 'n' :: cs => '\n' :: setText cs
    | '\\' :: ']' :: cs => '\\' :: ']' :: setText cs
    | c :: cs => c :: setText cs
    | [] => []

/-- The text between signs, or a fault if the second sign is missing. -/
def between (reason : String) (mark : Char) (isRegex : Bool) (t : ByteText) : ReadResult (ByteText × ByteText) :=
  match upTo mark isRegex (t.length + 1) t with
  | .ok found => .ok found
  | .error rest => refuseAt reason rest

/-- A text without the blanks it begins with. -/
def afterGaps (t : ByteText) : ByteText := t.dropWhile isGap

/-- The expression that a text writes, with the number of its groups. An empty text means the one that was used last.
-/
def regexOf (m : Manner) (folded byLines : Bool) (t rest : ByteText) : ReadResult (Option Regex) :=
  if t.isEmpty then .ok none
  else
    match Regex.read ⟨m.extended, true, false, folded, byLines⟩ (unescaped [] (t.length + 1) t) with
    | .ok (r, _) => .ok (some r)
    | .error .likeClass => .error (.whole false Regex.Fault.likeClass.message)
    | .error fault => refuseAt fault.message rest

/-! ### Guards -/

/-- The number that a text begins with. -/
def numberAt (t : ByteText) : Option (Nat × ByteText) :=
  let digits := t.takeWhile isDigit
  if digits.isEmpty then none else some (valueOfDigits digits, t.drop digits.length)

/-- The number that a text begins with behind blanks, or zero. -/
def numberOrZero (t : ByteText) : Nat × ByteText := (numberAt (afterGaps t)).getD (0, afterGaps t)

/-- The letters behind an expression, and what is behind them. -/
def regexFlags : ByteText → List Char × ByteText
  | [] => ([], [])
  | c :: cs =>
    if isGap c then regexFlags cs
    else if c = 'I' || c = 'M' then
      let (flags, rest) := regexFlags cs
      (c :: flags, rest)
    else ([], c :: cs)

/-- The address that a text begins with. -/
def address? (m : Manner) (t : ByteText) : ReadResult (Option (Address × ByteText)) :=
  match t with
  | '$' :: rest => .ok (some (.last, rest))
  | '/' :: rest => pattern '/' rest
  | '\\' :: mark :: rest => pattern mark rest
  | t =>
    match numberAt t with
    | none => .ok none
    | some (n, rest) =>
      match afterGaps rest with
      | '~' :: rest =>
        let (step, rest) := numberOrZero rest
        .ok (some (if step = 0 then .line n else .every n step, rest))
      | rest => .ok (some (.line n, rest))
where
  /-- An address that is an expression. -/
  pattern (mark : Char) (t : ByteText) : ReadResult (Option (Address × ByteText)) := do
    let (pattern, rest) ← between "unterminated address regex" mark true t
    let (flags, rest) := regexFlags rest
    let r ← regexOf m (flags.contains 'I') (flags.contains 'M') pattern rest
    .ok (some (.matching r, rest))

/-- The guard that a text begins with. -/
def guardAt (m : Manner) (t : ByteText) : ReadResult (Guard × ByteText) := do
  match ← address? m t with
  | none =>
    match t with
    | '+' :: rest => relative rest
    | '~' :: rest => relative rest
    | t => negation ⟨none, none, false⟩ t
  | some (first, rest) =>
    match afterGaps rest with
    | ',' :: rest =>
      let (stop, rest) ← rangeEnd (afterGaps rest)
      checked ⟨some first, some stop, false⟩ rest
    | rest => checked ⟨some first, none, false⟩ rest
where
  /-- A guard cannot begin at a number of lines behind another line. -/
  relative (rest : ByteText) : ReadResult (Guard × ByteText) :=
    refuseAt "invalid usage of +N or ~N as first address" (numberOrZero rest).2
  /-- The end of a range. -/
  rangeEnd (t : ByteText) : ReadResult (RangeEnd × ByteText) := do
    match t with
    | '+' :: rest =>
      let (n, rest) := numberOrZero rest
      .ok (.behind n, rest)
    | '~' :: rest =>
      let (n, rest) := numberOrZero rest
      .ok (.multiple n, rest)
    | t =>
      match ← address? m t with
      | some (a, rest) => .ok (.at a, rest)
      | none => refuseAt "unexpected \x60,'" (if m.isEnd t then t else t.drop 1)
  /-- Line zero is only there in front of a range that ends at an expression. -/
  checked (g : Guard) (rest : ByteText) : ReadResult (Guard × ByteText) :=
    let isZero := match g.first, g.last with
      | some (.line 0), some (.at (.matching _)) => false
      | some (.line 0), _ => true
      | _, _ => false
    let rest := afterGaps rest
    if isZero then refuseAt "invalid usage of line address 0" (if m.isEnd rest then rest else rest.drop 1)
    else negation g rest
  /-- The exclamation mark behind addresses. -/
  negation (g : Guard) (t : ByteText) : ReadResult (Guard × ByteText) :=
    match afterGaps t with
    | '!' :: rest =>
      match afterGaps rest with
      | '!' :: rest => refuseAt "multiple \x60!'s" rest
      | rest => .ok ({ g with negated := true }, rest)
    | rest => .ok (g, rest)

/-! ### Actions -/

/-- Pass over the end of an instruction. -/
def finish (t : ByteText) : ReadResult ByteText :=
  match afterGaps t with
  | [] => .ok []
  | c :: rest =>
    if c = '\n' || c = ';' then .ok rest
    else if c = '\x7d' || c = '#' then .ok (c :: rest)
    else refuseAt "extra characters after command" rest

/-- The text of an instruction up to the end of its line, and the rest. -/
def textLines : Nat → ByteText → ByteText × ByteText
  | 0, t => (t, [])
  | _, [] => ([], [])
  | _, ['\\'] => ([], [])
  | fuel + 1, '\\' :: c :: cs =>
    let (image, behind) := if c = 'n' then ('\n', cs) else (escapeAt? c cs).getD (c, cs)
    let (t, rest) := textLines fuel behind
    (image :: t, rest)
  | fuel + 1, c :: cs =>
    if c = '\n' then ([], cs)
    else
      let (t, rest) := textLines fuel cs
      (c :: t, rest)

/-- The text of an instruction that adds text. -/
def addedText (m : Manner) (t : ByteText) : ReadResult (ByteText × ByteText) :=
  let whole (t : ByteText) : ReadResult (ByteText × ByteText) :=
    let (text, rest) := textLines (t.length + 1) t
    .ok (text ++ ['\n'], rest)
  let t := afterGaps t
  if m.isEnd t then refuseAt "expected \\ after \x60a', \x60c' or \x60i'" t
  else
    match t with
    | ['\\'] => .ok ([], [])
    | '\\' :: '\n' :: rest => if rest.isEmpty then .ok ([], []) else whole rest
    | '\\' :: c :: rest =>
      if isGap c then
        match afterGaps rest with
        | '\n' :: behind => whole behind
        | _ => whole (c :: rest)
      else whole (c :: rest)
    | t => whole t

/-- The rest of a line, and what is behind it. -/
def restOfLine (t : ByteText) : ByteText × ByteText :=
  let line := t.takeWhile fun c => c ≠ '\n'
  (line, t.drop (line.length + 1))

/-- The name of a file that a text begins with, and what is behind it. -/
def pathAt (t : ByteText) : ReadResult (ByteText × ByteText) :=
  let line := afterGaps t
  let (path, rest) := restOfLine line
  if path.isEmpty then refuseAt "missing filename in r/R/w/W commands" line else .ok (path, rest)

/-- A name that ends at a blank, a semicolon or a brace, and what is behind it. -/
def labelAt (t : ByteText) : ByteText × ByteText :=
  let name := (afterGaps t).takeWhile fun c => !" \t\n;\x7d".toList.contains c
  (name, (afterGaps t).drop name.length)

/-- The parts of a replacement. -/
def replacementOf : Nat → ByteText → List ReplacementPart
  | 0, _ => []
  | _, [] => []
  | fuel + 1, '&' :: cs => .group 0 :: replacementOf fuel cs
  | fuel + 1, '\\' :: c :: cs =>
    if c.isDigit then .group (digitValue c) :: replacementOf fuel cs
    else
      match c with
      | 'n' => .text ['\n'] :: replacementOf fuel cs
      | 'U' => .casing .upper false :: replacementOf fuel cs
      | 'L' => .casing .lower false :: replacementOf fuel cs
      | 'E' => .casing .asItIs false :: replacementOf fuel cs
      | 'u' => .casing .upper true :: replacementOf fuel cs
      | 'l' => .casing .lower true :: replacementOf fuel cs
      | c =>
        let (image, rest) := (escapeAt? c cs).getD (if c = 'c' then '\\' else c, cs)
        .text [image] :: replacementOf fuel rest
  | fuel + 1, c :: cs => .text [c] :: replacementOf fuel cs

/-- The greatest number of a group that a replacement means. -/
def greatestGroup (parts : List ReplacementPart) : Nat :=
  parts.foldl (fun n part => match part with
    | .group k => max n k
    | _ => n) 0

/-- The flags behind a substitution. -/
structure SubstitutionFlags where
  nth : Option Nat
  everywhere : Bool
  shown : Bool
  folded : Bool
  byLines : Bool
  target : Option ByteText

/-- Read the flags of a substitution up to the end of the instruction. -/
def flagsAt : Nat → SubstitutionFlags → ByteText → ReadResult (SubstitutionFlags × ByteText)
  | 0, flags, t => .ok (flags, t)
  | _, flags, [] => .ok (flags, [])
  | fuel + 1, flags, c :: cs =>
    match c with
    | 'g' =>
      if flags.everywhere then refuseAt "multiple \x60g' options to \x60s' command" cs
      else flagsAt fuel { flags with everywhere := true } cs
    | 'p' =>
      if flags.shown then refuseAt "multiple \x60p' options to \x60s' command" cs
      else flagsAt fuel { flags with shown := true } cs
    | 'i' => flagsAt fuel { flags with folded := true } cs
    | 'I' => flagsAt fuel { flags with folded := true } cs
    | 'm' => flagsAt fuel { flags with byLines := true } cs
    | 'M' => flagsAt fuel { flags with byLines := true } cs
    | 'w' => do
      let (path, rest) ← pathAt cs
      .ok ({ flags with target := some path }, rest)
    | '\n' => .ok (flags, cs)
    | ';' => .ok (flags, cs)
    | '\x7d' => .ok (flags, c :: cs)
    | '#' => .ok (flags, c :: cs)
    | c =>
      match numberAt (c :: cs) with
      | some (n, rest) =>
        if flags.nth.isSome then refuseAt "multiple number options to \x60s' command" cs
        else if n = 0 then refuseAt "number option to \x60s' command may not be zero" rest
        else flagsAt fuel { flags with nth := some n } rest
      | none => if isGap c then flagsAt fuel flags cs else refuseAt "unknown option to \x60s'" cs

/-- Read a substitution. -/
def substitutionAt (m : Manner) (t : ByteText) : ReadResult (Action × ByteText) := do
  let reason := "unterminated \x60s' command"
  match t with
  | [] => refuseAt reason []
  | mark :: rest =>
    let (pattern, rest) ← between reason mark true rest
    let (replacement, rest) ← between reason mark false rest
    let (flags, rest) ← flagsAt (rest.length + 1) ⟨none, false, false, false, false, none⟩ rest
    let r ← regexOf m flags.folded flags.byLines pattern rest
    let parts := replacementOf (replacement.length + 1) replacement
    if let some r := r then
      if r.groupCount < greatestGroup parts then
        refuseAt ("invalid reference \\" ++ toString (greatestGroup parts) ++ " on \x60s' command's RHS") rest
    .ok (.substitute ⟨r, parts, flags.nth.getD 1, flags.everywhere, flags.shown, flags.target⟩, rest)

/-- The characters of a list for transliteration. -/
def listed : ByteText → ByteText
  | '\\' :: 'n' :: cs => '\n' :: listed cs
  | '\\' :: c :: cs => c :: listed cs
  | c :: cs => c :: listed cs
  | [] => []

/-- Read a transliteration. -/
def transliterationAt (t : ByteText) : ReadResult (Action × ByteText) := do
  let reason := "unterminated \x60y' command"
  match t with
  | [] => refuseAt reason []
  | mark :: rest =>
    let (old, rest) ← between reason mark false rest
    let (new, rest) ← between reason mark false rest
    let charactersOf (t : ByteText) : List Char := (listed (unescaped ['\\'] (t.length + 1) t)).characters
    let (a, b) := (charactersOf old, charactersOf new)
    if a.length ≠ b.length then refuseAt "strings for \x60y' command are different lengths" rest
    else .ok (.transliterate (a.zip b), ← finish rest)

/-- The version that a script can ask for, part by part. -/
def knownVersion : List Nat := [4, 9, 0]

/-- Whether a script asks for a newer version. -/
def isNewer (t : ByteText) : Bool :=
  let parts := (pieces (fun c => c = '.') t).map fun p => valueOfDigits (p.takeWhile isDigit)
  decide (knownVersion < parts ++ List.replicate (3 - parts.length) 0)

/-- Read the action that a letter tells. -/
def actionAt (m : Manner) (g : Guard) (letter : Char) (t : ByteText) : ReadResult (Action × ByteText) := do
  let plain (a : Action) : ReadResult (Action × ByteText) := return (a, ← finish t)
  let jump (c : JumpCondition) : ReadResult (Action × ByteText) :=
    let (name, rest) := labelAt t
    return (.jump c name, ← finish rest)
  let added (f : ByteText → Action) : ReadResult (Action × ByteText) := do
    let (text, rest) ← addedText m t
    .ok (f text, rest)
  let quit (shown : Bool) : ReadResult (Action × ByteText) := do
    if g.last.isSome then refuseAt "command only uses one address" t
    let (code, rest) := numberOrZero t
    .ok (.quit shown code, ← finish rest)
  let file (f : ByteText → Action) : ReadResult (Action × ByteText) := do
    let (path, rest) ← pathAt t
    .ok (f path, rest)
  match letter with
  | '\x7b' => .ok (.begin, t)
  | '\x7d' => if g.first.isSome then refuseAt "\x60\x7d' doesn't want any addresses" t else plain .close
  | ':' =>
    if g.first.isSome then refuseAt ": doesn't want any addresses" t
    else
      let (name, rest) := labelAt t
      if name.isEmpty then refuseAt "\":\" lacks a label" rest else .ok (.label name, ← finish rest)
  | 'b' => jump .always
  | 't' => jump .substituted
  | 'T' => jump .unsubstituted
  | 'a' => added .append
  | 'i' => added .insert
  | 'c' => added .change
  | 'r' => file .appendFile
  | 'R' => file .appendLine
  | 'w' => file (.writeTo true)
  | 'W' => file (.writeTo false)
  | 'd' => plain .delete
  | 'D' => plain .deleteLine
  | 'p' => plain .print
  | 'P' => plain .printLine
  | 'l' =>
    match numberAt (afterGaps t) with
    | some (width, rest) => return (.list (some width), ← finish rest)
    | none => plain (.list none)
  | 'n' => plain .next
  | 'N' => plain .join
  | 'q' => quit true
  | 'Q' => quit false
  | 'h' => plain (.hold false)
  | 'H' => plain (.hold true)
  | 'g' => plain (.fetch false)
  | 'G' => plain (.fetch true)
  | 'x' => plain .exchange
  | '=' => plain .number
  | 'F' => plain .fileName
  | 'z' => plain .clear
  | 'v' =>
    let (version, rest) := labelAt t
    if isNewer version then refuseAt "expected newer version of sed" rest else .ok (.nothing, ← finish rest)
  | 's' => substitutionAt m t
  | 'y' => transliterationAt t
  | c => refuseAt ("unknown command: \x60" ++ String.ofList [c] ++ "'") t

/-! ### Scripts -/

/-- Read instructions, in so many blocks. -/
def instructionsFrom (m : Manner) : Nat → Nat → ByteText → ReadResult (List Instruction)
  | 0, _, _ => .ok []
  | fuel + 1, depth, t =>
    match t.dropWhile fun c => " \t\n;".toList.contains c with
    | [] => if 0 < depth then .error (.whole true "unmatched \x60\x7b'") else .ok []
    | '#' :: rest => instructionsFrom m fuel depth (rest.dropWhile fun c => c ≠ '\n')
    | t => do
      let (guard, rest) ← guardAt m t
      match rest with
      | [] => refuseAt "missing command" []
      | c :: rest =>
        if m.isEnd (c :: rest) then refuseAt "missing command" (c :: rest)
        if c = '#' then refuseAt "comments don't accept any addresses" rest
        if c = '\x7d' && depth = 0 then refuseAt "unexpected \x60\x7d'" rest
        let (action, rest) ← actionAt m guard c rest
        let depth := match action with
          | .begin => depth + 1
          | .close => depth - 1
          | _ => depth
        return ⟨guard, action⟩ :: (← instructionsFrom m fuel depth rest)

/-- The first jump that leads nowhere. -/
def lostLabel? (is : List Instruction) : Option ByteText :=
  let labels := is.filterMap fun i => match i.action with
    | .label name => some name
    | _ => none
  is.findSome? fun i => match i.action with
    | .jump _ name => if name.isEmpty || labels.contains name then none else some name
    | _ => none

/-- How much of a script is left at the ends of its pieces but the last one. -/
def jointsOf : List ByteText → List Nat
  | [] => []
  | [_] => []
  | _ :: pieces => ((['\n'].intercalate pieces).length + 1) :: jointsOf pieces

/-- The instructions that the pieces of a script write. A fault is told with the number of the piece in which it shows
and with what has been read of that, or without a place. -/
def read (extended : Bool) (pieces : List ByteText) :
    Except (String × Option (Nat × ByteText)) (List Instruction) :=
  let t := ['\n'].intercalate pieces
  let m : Manner := ⟨extended, jointsOf pieces⟩
  match instructionsFrom m (t.length + 1) 0 t with
  | .error (.found reason rest) =>
    let index := m.joints.countP fun joint => decide (rest.length < joint)
    let before := (pieces.take index).foldl (fun n piece => n + piece.length + 1) 0
    .error (reason, some (index, (t.take (t.length - rest.length)).drop before))
  | .error (.whole located reason) => .error (reason, if located then some (0, []) else none)
  | .ok is =>
    match lostLabel? is with
    | some name => .error ("can't find label for jump to \x60" ++ String.ofList name ++ "'", none)
    | none => .ok is

end Editor

end Utility

end Script

end LinearProgram
