import LinearProgram.Script.Condition
import LinearProgram.Script.Formatted

/-!
Programs that scripts make use of.

A utility is given the name it is called by and its arguments; it works on the streams and files of the process that
runs it, and answers with an exit code. Each does what scripts need of it.

* `Utility`: what a utility does.
* `Options.read?`: options and operands among the arguments.
* `Utility.refuse`, `Utility.misuse`: complaints.
* `directoryOf`, `lastNameOf`: the parts of paths.
-/

namespace LinearProgram

namespace Script

/-- A program of its own: what it does when it is called by a name with arguments. -/
abbrev Utility := ByteText → List ByteText → Shell Nat

/-! ### Options -/

/-- The options and operands of a call. -/
structure Options where
  /-- The letters of the options with their values, which are empty for options that have none. -/
  given : List (Char × ByteText)
  operands : List ByteText

namespace Options

/-- Whether an option is given. -/
def has (o : Options) (letter : Char) : Bool := (o.given.lookup letter).isSome

/-- The last value that an option is given. -/
def value? (o : Options) (letter : Char) : Option ByteText := o.given.reverse.lookup letter

/-- The options in the letters of an argument, with the arguments behind it. The fault is told in words. -/
def readLetters (plain valued : List Char) :
    ByteText → List ByteText → Except ByteText (List (Char × ByteText) × List ByteText)
  | [], rest => .ok ([], rest)
  | c :: cs, rest =>
    if plain.contains c then do
      let (given, rest) ← readLetters plain valued cs rest
      .ok ((c, []) :: given, rest)
    else if valued.contains c then
      match cs, rest with
      | [], [] => .error ("option requires an argument -- '".toList ++ [c, '\''])
      | [], value :: rest => .ok ([(c, value)], rest)
      | value, rest => .ok ([(c, value)], rest)
    else .error ("invalid option -- '".toList ++ [c, '\''])

/-- The option that a long name, or the beginning of one, stands for, with its value if that is part of the
argument. -/
def ofLongName (long : List (String × Char)) (argument : ByteText) : Option ((String × Char) × Option ByteText) := do
  let name := argument.takeWhile fun c => c ≠ '='
  let chosen ← match long.find? fun e => e.1.toList = name, long.filter fun e => name.isPrefixOf e.1.toList with
    | some e, _ => some e
    | none, e :: es => if es.all fun e' => e'.2 = e.2 then some e else none
    | none, [] => none
  return (chosen, if argument.contains '=' then some (argument.drop (name.length + 1)) else none)

/-- The options and operands among arguments. Operands may stand before options, unless `leading` is set. -/
def readFrom (leading : Bool) (plain valued : List Char) (long : List (String × Char)) :
    Nat → List ByteText → Except ByteText Options
  | 0, arguments => .ok ⟨[], arguments⟩
  | _, [] => .ok ⟨[], []⟩
  | _, ['-', '-'] :: rest => .ok ⟨[], rest⟩
  | fuel + 1, ('-' :: '-' :: name) :: rest =>
    match ofLongName long name with
    | some ((whole, letter), value?) =>
      match value?, valued.contains letter, rest with
      | none, true, [] => .error ("option '--".toList ++ whole.toList ++ "' requires an argument".toList)
      | none, true, value :: rest => do
        let o ← readFrom leading plain valued long fuel rest
        .ok { o with given := (letter, value) :: o.given }
      | value?, _, rest => do
        let o ← readFrom leading plain valued long fuel rest
        .ok { o with given := (letter, value?.getD []) :: o.given }
    | none => .error ("unrecognized option '--".toList ++ name ++ ['\''])
  | fuel + 1, ('-' :: c :: cs) :: rest => do
    let (given, rest) ← readLetters plain valued (c :: cs) rest
    let o ← readFrom leading plain valued long fuel rest
    .ok { o with given := given ++ o.given }
  | fuel + 1, operand :: rest =>
    if leading then .ok ⟨[], operand :: rest⟩
    else do
      let o ← readFrom leading plain valued long fuel rest
      .ok { o with operands := operand :: o.operands }

/-- The options and operands among arguments; `plain` and `valued` hold the letters of the options without and with
a value. -/
def read? (plain valued : String) (long : List (String × Char)) (arguments : List ByteText) :
    Except ByteText Options :=
  readFrom false plain.toList valued.toList long (arguments.length + 1) arguments

/-- The options in front of the first operand, and the operands. -/
def readLeading? (plain valued : String) (long : List (String × Char)) (arguments : List ByteText) :
    Except ByteText Options :=
  readFrom true plain.toList valued.toList long (arguments.length + 1) arguments

end Options

/-! ### Complaints -/

/-- What is wrong with a file, without the number that the system gives it. -/
def faultText (fault : FileFault) : ByteText :=
  ((pieces (fun c : Char => c = '(') fault.message.toList).headD []).reverse.dropWhile (fun c => c = ' ')
    |>.reverse

namespace Utility

/-- Complain about something. -/
def complain (name complaint : ByteText) : Shell Unit := Shell.warn (name ++ ": ".toList ++ complaint)

/-- Fail with a complaint. -/
def refuse (name complaint : ByteText) (code : Nat) : Shell Nat := do
  complain name complaint
  pure code

/-- Fail because the utility is called in a wrong way. -/
def misuse (name complaint : ByteText) (code : Nat) : Shell Nat := do
  complain name complaint
  Shell.warn ("Try '".toList ++ name ++ " --help' for more information.".toList)
  pure code

/-- A text between plain quotes. -/
def enclosed (t : ByteText) : ByteText := ['\''] ++ t ++ ['\'']

/-- The characters that make it necessary to put a text in quotes for a shell, and the colon behind which complaints
go on. -/
def needsQuotes : ByteText := " !\"$&'()*:;<=>?[\\^\x60|".toList

/-- The characters that mean nothing in double quotes. -/
def isTame (c : Char) : Bool := c.isAlphanum || " '%+,-./:=@]_\x7b\x7d".toList.contains c

/-- How a character that is not printed is written in quotes. -/
def quotedByte (c : Char) : ByteText :=
  let letters := [('\t', 't'), ('\n', 'n'), ('\r', 'r'), ('\x07', 'a'), ('\x08', 'b'), ('\x0b', 'v'), ('\x0c', 'f')]
  match letters.lookup c with
  | some letter => ['\\', letter]
  | none => '\\' :: [c.toNat / 64 % 8, c.toNat / 8 % 8, c.toNat % 8].flatMap ByteText.ofNat

/-- Whether a character of a text is printed as it is: bytes beyond ASCII are if the text is UTF-8. -/
def isPrintedIn (t : ByteText) : Char → Bool :=
  let isText := t.all (fun c => decide (c ≤ '~')) || (Utf8.decode? t.toBytes).isSome
  fun c => decide (' ' ≤ c) && decide (c ≤ '~') || isText && decide ('\x80' ≤ c)

/-- A text in quotes. -/
def quoted (t : ByteText) : ByteText :=
  let isPrinted := isPrintedIn t
  let shown := t.flatMap fun c => if !isPrinted c then quotedByte c else if c = '\\' then [c, c] else [c]
  .ofString "‘" ++ shown ++ .ofString "’"

/-- A text inside single quotes, which are left and entered again for what is not printed. -/
def quotedFrom (isPrinted : Char → Bool) (escaping : Bool) : ByteText → ByteText
  | [] => ['\'']
  | c :: cs =>
    let change := if isPrinted c = escaping then (if escaping then "''" else "'$'").toList else []
    let own := if !isPrinted c then quotedByte c else if c = '\'' then "'\\''".toList else [c]
    change ++ own ++ quotedFrom isPrinted (!isPrinted c) cs

/-- A path in quotes that a shell takes off again. -/
def quotedPath (path : ByteText) : ByteText :=
  if path.contains '\'' && path.all isTame then ['"'] ++ path ++ ['"']
  else '\'' :: quotedFrom (isPrintedIn path) false path

/-- A path as complaints tell it: in quotes where a shell would need them. -/
def shownPath (path : ByteText) : ByteText :=
  let isPrinted := isPrintedIn path
  let isPlain := !path.isEmpty && path.all (fun c => isPrinted c && !needsQuotes.contains c)
    && path.head? ≠ some '#' && path.head? ≠ some '~' && path ≠ ['\x7b'] && path ≠ ['\x7d']
  if isPlain then path else quotedPath path

/-- Do something for each of some things, and answer with the greatest exit code. -/
def forEach {α : Type} (things : List α) (act : α → Shell Nat) : Shell Nat :=
  things.foldlM (fun code thing => return max code (← act thing)) 0

/-- Do something with options and operands, if the arguments are in order. -/
def withOptions (plain valued : String) (long : List (String × Char)) (badCode : Nat)
    (act : ByteText → Options → Shell Nat) : Utility := fun name arguments =>
  match Options.read? plain valued long arguments with
  | .ok o => act name o
  | .error complaint => misuse name complaint badCode

/-- Do something with options and operands, the options being in front of the operands. -/
def withLeadingOptions (plain valued : String) (long : List (String × Char)) (badCode : Nat)
    (act : ByteText → Options → Shell Nat) : Utility := fun name arguments =>
  match Options.readLeading? plain valued long arguments with
  | .ok o => act name o
  | .error complaint => misuse name complaint badCode

/-- Do something with the contents of files, or with the input if there are none. A file that cannot be read gives
rise to a complaint. -/
def withContents (operands : List ByteText) (refused : ByteText → FileFault → Shell Unit)
    (act : ByteText → ByteText → Shell Nat) (badCode : Nat) : Shell Nat :=
  forEach (if operands.isEmpty then [['-']] else operands) fun path => do
    match ← Shell.contentOf path with
    | .ok content => act path content
    | .error fault =>
      refused path fault
      pure badCode

/-- Complain about a file by its path. -/
def complainOfPath (name path : ByteText) (fault : FileFault) : Shell Unit :=
  complain name (shownPath path ++ ": ".toList ++ faultText fault)

/-- Complain about a file that cannot be opened for reading. -/
def complainOfOpening (name path : ByteText) (fault : FileFault) : Shell Unit :=
  match fault with
  | .isADirectory | .wrongWay =>
    complain name ("error reading ".toList ++ quotedPath path ++ ": ".toList ++ faultText fault)
  | fault => complain name ("cannot open ".toList ++ quotedPath path ++ " for reading: ".toList ++ faultText fault)

/-! ### Output -/

/-- What is said by a utility that has not been able to write its output, and its exit code. -/
def outputFault (utility : String) (fault : FileFault) : List ByteText × Nat :=
  let isClosed := fault = .badDescriptor
  let told := faultText fault
  let plain (what : String) : List ByteText := [what.toList ++ ": ".toList ++ told]
  match utility with
  | "yes" => (plain "standard output", 1)
  | "sort" => (plain "fflush failed: 'standard output'" ++ ["write error".toList], 2)
  | "wc" | "md5sum" => (if isClosed then plain "write error" else ["write error".toList], 1)
  | "sed" =>
    if fault = .wrongWay then ([], 0)
    else (plain (if isClosed then "couldn't close stdout" else "couldn't flush stdout"), 4)
  | "expr" => (plain "write error", 3)
  | "cmp" => if isClosed then ([], 0) else (plain "standard output", 2)
  | "env" => (plain "write error", 125)
  | utility =>
    let isGrave := ["ls", "grep", "egrep", "fgrep", "printenv"].contains utility
    (if utility = "rev" && (isClosed || fault = .wrongWay) then [] else plain "write error", if isGrave then 2 else 1)

/-- Run a utility, and complain at its end if it has not been able to write its output. -/
def finished (utility : String) (name : ByteText) (act : Shell Nat) : Shell Nat := do
  modify fun p => { p with unsaid := none }
  let code ← act
  match (← get).unsaid with
  | none => pure code
  | some fault =>
    let (complaints, worse) := outputFault utility fault
    let name := if utility = "egrep" ∨ utility = "fgrep" then "grep".toList else name
    for complaint in complaints do complain name complaint
    modify fun p => { p with unsaid := none }
    pure (if complaints.isEmpty then code else worse)

end Utility

/-! ### Parts of paths -/

/-- A path without the slashes at its end. -/
def withoutSlashes (path : ByteText) : ByteText := (path.reverse.dropWhile fun c => c = '/').reverse

/-- The directory of a path. -/
def directoryOf (path : ByteText) : ByteText :=
  let trimmed := withoutSlashes path
  if trimmed.isEmpty then (if path.isEmpty then ['.'] else ['/'])
  else if !trimmed.contains '/' then ['.']
  else
    let directory := withoutSlashes (trimmed.reverse.dropWhile fun c => c ≠ '/').reverse
    if directory.isEmpty then ['/'] else directory

/-- The last name of a path. -/
def lastNameOf (path : ByteText) : ByteText :=
  let trimmed := withoutSlashes path
  if trimmed.isEmpty then (if path.isEmpty then [] else ['/'])
  else (trimmed.reverse.takeWhile fun c => c ≠ '/').reverse

/-- A name without an ending, unless it is nothing but that ending. -/
def withoutEnding (ending name : ByteText) : ByteText :=
  if ending.isSuffixOf name ∧ name ≠ ending then name.take (name.length - ending.length) else name

/-! ### Lines -/

/-- The parts of a text without the sign at their ends, the last one perhaps unfinished. -/
def endedBy (ending : Char) (t : ByteText) : List ByteText :=
  let ps := pieces (fun c => c = ending) t
  if ps.getLast? = some [] then ps.dropLast else ps

/-- The lines of a text without their ends, the last one perhaps unfinished. -/
def linesOfText (t : ByteText) : List ByteText := endedBy '\n' t

/-- Lines with their ends. -/
def unlines (ls : List ByteText) : ByteText := ls.flatMap fun l => l ++ ['\n']

/-- The lines of a text, the unfinished one without an end. -/
def rawLines : ByteText → List ByteText
  | [] => []
  | c :: cs =>
    if c = '\n' then ['\n'] :: rawLines cs
    else
      match rawLines cs with
      | l :: ls => if cs.isEmpty then [c] :: l :: ls else (c :: l) :: ls
      | [] => [[c]]

/-! ### Order -/

/-- The order of two things that can be compared. -/
def orderOf {α : Type} [LT α] [DecidableRel (α := α) (· < ·)] (a b : α) : Ordering :=
  if a < b then .lt else if b < a then .gt else .eq

/-! ### Time -/

/-- The seconds in the units of time. -/
def secondsOf? (unit : ByteText) : Option Nat :=
  [([], 1), (['s'], 1), (['m'], 60), (['h'], 3600), (['d'], 86400)].lookup unit

/-- The nanoseconds that a number with an optional unit of time writes. -/
def nanosOf? (t : ByteText) : Option Nat := do
  let whole := t.takeWhile isDigit
  let behind := t.drop whole.length
  let places := if behind.head? = some '.' then (behind.drop 1).takeWhile isDigit else []
  let unit := if behind.head? = some '.' then behind.drop (places.length + 1) else behind
  if t = "infinity".toList || t = "inf".toList then some (Nat.pow 10 30)
  else if whole.isEmpty && places.isEmpty then none
  else
    let seconds ← secondsOf? unit
    let nanos := valueOfDigits ((places ++ List.replicate 9 '0').take 9)
    some ((valueOfDigits whole * 1000000000 + nanos) * seconds)

end Script

end LinearProgram
