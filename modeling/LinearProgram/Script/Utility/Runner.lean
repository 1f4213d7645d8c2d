import LinearProgram.Script.Apart
import LinearProgram.Script.Utility.Value

/-!
Utilities that run other commands.

Each is given a function that runs a command in the place of the process, or says why it cannot.

* `env`: other parameters.
* `nice`, `nohup`: other circumstances, which do not show.
* `timeout`: a time limit.
* `xargs`: arguments from the input.
-/

namespace LinearProgram

namespace Script

/-- How a command with arguments is run in the place of the process. -/
abbrev Starter := ByteText → List ByteText → Shell (Except FileFault Nat)

namespace Utility

/-- Run a command, or complain that what is told in some words cannot be run. -/
def start (starter : Starter) (name what command : ByteText) (arguments : List ByteText) : Shell Nat := do
  match ← starter command arguments with
  | .ok code => pure code
  | .error fault =>
    complain name (what ++ ": ".toList ++ faultText fault)
    pure (if fault = .notFound then 127 else 126)

/-! ### Other parameters -/

/-- The words of a text, as far as they have been read. -/
structure Splitting where
  /-- The words, the last one first. -/
  words : List ByteText
  /-- The sign inside which the text stands, if it stands inside one. -/
  inside : Option Char
  /-- Whether the last word is at its end. -/
  apart : Bool

namespace Splitting

/-- A character, or nothing, is a part of the last word. -/
def add (t : ByteText) (s : Splitting) : Splitting :=
  match s.apart, s.words with
  | false, word :: words => { s with words := (word ++ t) :: words }
  | _, words => { s with words := t :: words, apart := false }

/-- The character that stands behind a backslash for another one. -/
def escapes : List (Char × Char) := [('f', '\x0c'), ('n', '\n'), ('r', '\r'), ('t', '\t'), ('v', '\x0b')]

/-- Read a text to its end. Signs put words together, and names in braces stand for their values. -/
def read (valueOf : ByteText → Option ByteText) : Nat → Splitting → ByteText → Except ByteText (List ByteText)
  | 0, s, _ => .ok s.words.reverse
  | _, s, [] =>
    if s.inside.isSome then .error "no terminating quote in -S string".toList else .ok s.words.reverse
  | fuel + 1, s, c :: cs =>
    let go (s : Splitting) (cs : ByteText) : Except ByteText (List ByteText) := read valueOf fuel s cs
    let isSingle := s.inside = some '\''
    if (c = '\'' || c = '"') && s.inside.all (· = c) then
      go { s.add [] with inside := if s.inside.isSome then none else some c } cs
    else if " \t\n\x0b\x0c\r".toList.contains c && s.inside.isNone then go { s with apart := true } cs
    else if c = '#' && s.apart then .ok s.words.reverse
    else if c = '\\' && !(isSingle && cs.head? ≠ some '\\' && cs.head? ≠ some '\'') then
      match cs with
      | [] => .error "invalid backslash at end of string in -S".toList
      | '_' :: cs => if s.inside = some '"' then go (s.add [' ']) cs else go { s with apart := true } cs
      | 'c' :: _ =>
        if s.inside = some '"' then .error "'\\c' must not appear in double-quoted -S string".toList
        else .ok s.words.reverse
      | c :: cs =>
        if "\"#$'\\".toList.contains c then go (s.add [c]) cs
        else
          match escapes.lookup c with
          | some image => go (s.add [image]) cs
          | none => .error ("invalid sequence '\\".toList ++ [c] ++ "' in -S".toList)
    else if c = '$' && !isSingle then
      let name := (cs.drop 1).takeWhile fun c => c ≠ '\x7d'
      let isName := cs.head? = some '\x7b' && (name.head?.any fun c => c.isAlpha || c = '_') &&
        (name.all fun c => c.isAlphanum || c = '_') && decide (name.length + 1 < cs.length)
      if isName then
        let behind := cs.drop (name.length + 2)
        match valueOf name with
        | some value => go (s.add value) behind
        | none => go s behind
      else .error ("only $\x7bVARNAME\x7d expansion is supported, error at: ".toList ++ c :: cs)
    else go (s.add [c]) cs

end Splitting

/-- The words of a text that stands for arguments. -/
def splitWords (valueOf : ByteText → Option ByteText) (t : ByteText) : Except ByteText (List ByteText) :=
  Splitting.read valueOf (t.length + 1) ⟨[], none, true⟩ t

/-- Read the options of `env`. The words of a text with arguments are put in the place of its option. -/
def envOptions (valueOf : ByteText → Option ByteText) : Nat → List ByteText → Except (Bool × ByteText) Options
  | 0, arguments => .ok ⟨[], arguments⟩
  | fuel + 1, arguments => do
    let long := [("ignore-environment", 'i'), ("unset", 'u'), ("chdir", 'C'), ("split-string", 'S')]
    let o ← (Options.readLeading? "i0v" "uCS" long arguments).mapError fun complaint => (true, complaint)
    match o.value? 'S' with
    | none => .ok o
    | some t =>
      let words ← (splitWords valueOf t).mapError fun complaint => (false, complaint)
      let rest ← envOptions valueOf fuel (words ++ o.operands)
      .ok { rest with given := (o.given.filter fun e => e.1 ≠ 'S') ++ rest.given }

/-- Run a command with other parameters, or list them. -/
def env (starter : Starter) : Utility := fun name arguments => do
  let p ← get
  let valueOf (t : ByteText) : Option ByteText :=
    (p.parameters.lookup t).bind fun v => if v.exported then v.value else none
  match envOptions valueOf (arguments.length + 100) arguments with
  | .error (false, complaint) => refuse name complaint 125
  | .error (true, complaint) =>
    complain name complaint
    if complaint = "invalid option -- ' '".toList then
      complain name "use -[v]S to pass options in shebang lines".toList
    Shell.warn ("Try '".toList ++ name ++ " --help' for more information.".toList)
    pure 125
  | .ok o =>
    let (bare, operands) := match o.operands with
      | ['-'] :: rest => (true, rest)
      | operands => (o.has 'i', operands)
    if bare then modify fun p => { p with parameters := p.parameters.filter fun e => !e.2.exported }
    for (letter, value) in o.given do
      if letter = 'u' then Shell.setParameter value none
    if let some directory := o.value? 'C' then
      match (← Shell.files).find (← Shell.path directory) with
      | .ok (place, .directory) => modify fun p => { p with directory := place }
      | found =>
        let fault := match found with
          | .error fault => fault
          | .ok _ => .notADirectory
        complain name ("cannot change directory to ".toList ++ quotedPath directory ++ ": ".toList ++ faultText fault)
        return 125
    let settings := operands.takeWhile fun a => a.contains '='
    for setting in settings do
      let parameter := setting.takeWhile fun c => c ≠ '='
      Shell.setParameter parameter (some ⟨some (setting.drop (parameter.length + 1)), true, false⟩)
    match operands.drop settings.length with
    | [] =>
      Shell.say (unlines (← get).settings)
      pure 0
    | command :: arguments => start starter name (quoted command) command arguments

/-! ### Other circumstances -/

/-- Run a command at another pace. -/
def nice (starter : Starter) : Utility := fun name arguments => do
  let (short, arguments) := match arguments with
    | ('-' :: c :: cs) :: rest =>
      if (readDecimal? (c :: cs)).isSome then (some (c :: cs), rest) else (none, arguments)
    | arguments => (none, arguments)
  match Options.readLeading? "" "n" [("adjustment", 'n')] arguments with
  | .error complaint => misuse name complaint 125
  | .ok o =>
    match o.operands, (o.value? 'n').orElse fun _ => short with
    | [], some _ => misuse name "a command must be given with an adjustment".toList 125
    | [], none =>
      Shell.sayLine ['0']
      pure 0
    | command :: arguments, adjustment =>
      match adjustment.filter fun t => (readDecimal? t).isNone with
      | some t => refuse name ("invalid adjustment ".toList ++ quoted t) 125
      | none => start starter name (quoted command) command arguments

/-- Run a command that goes on when nobody listens. -/
def nohup (starter : Starter) : Utility :=
  withLeadingOptions "" "" [] 125 fun name o =>
    match o.operands with
    | [] => misuse name "missing operand".toList 125
    | command :: arguments =>
      start starter name ("failed to run command ".toList ++ quotedPath command) command arguments

/-- Run a command with a time limit. -/
def timeout (starter : Starter) : Utility := fun name arguments => do
  match Options.readLeading? "fpv" "sk" [("signal", 's'), ("kill-after", 'k'), ("foreground", 'f'),
      ("preserve-status", 'p')] arguments with
  | .error complaint => misuse name complaint 125
  | .ok o =>
    if let some t := (o.value? 's').filter fun t => (signalOf? t).isNone then
      return ← misuse name (quoted t ++ ": invalid signal".toList) 125
    if let some t := (o.value? 'k').filter fun t => (nanosOf? t).isNone then
      return ← misuse name ("invalid time interval ".toList ++ quoted t) 125
    match o.operands with
    | limit :: command :: arguments =>
      let run := start starter name ("failed to run command ".toList ++ quoted command) command arguments
      let w := (← get).world
      match nanosOf? limit with
      | none => misuse name ("invalid time interval ".toList ++ quoted limit) 125
      | some nanos =>
        let own := w.elapsed + nanos
        if nanos = 0 || (w.deadline.map fun d => decide (d ≤ own)).getD false then run
        else
          Shell.modifyWorld fun w => { w with deadline := some own }
          let result ← Shell.attempt (Shell.apart none run)
          Shell.modifyWorld fun v => { v with deadline := w.deadline }
          match result with
          | .ok code => pure code
          | .error .overran =>
            Shell.modifyWorld fun w => { w with elapsed := own }
            let signal := ((o.value? 's').bind signalOf?).getD 15
            if signal = 9 then throw (.killed (← get).number 9)
            else pure (if o.has 'p' then signalCode signal else 124)
          | .error h => throw h
    | _ =>
      Shell.warn ("Try '".toList ++ name ++ " --help' for more information.".toList)
      pure 125
where
  /-- The signal with a name, which may begin with the letters that all these names begin with. -/
  signalOf? (t : ByteText) : Option Nat :=
    Signal.ofText? (if "SIG".toList.isPrefixOf t then t.drop 3 else t)

/-! ### Arguments from the input -/

/-- The words of a text, in which quotes and backslashes keep blanks inside words. A quote that is not closed is
answered with. -/
def inputWords : Option Char → Option ByteText → ByteText → Except Char (List ByteText)
  | none, word, [] => .ok word.toList
  | some q, _, [] => .error q
  | none, word, '\\' :: c :: cs => inputWords none (some (word.getD [] ++ [c])) cs
  | none, word, c :: cs =>
    if c = ' ' || c = '\t' || c = '\n' then do .ok (word.toList ++ (← inputWords none none cs))
    else if c = '\'' || c = '"' then inputWords (some c) (some (word.getD [])) cs
    else inputWords none (some (word.getD [] ++ [c])) cs
  | some q, word, c :: cs =>
    if c = '\n' then .error q
    else if c = q then inputWords none word cs
    else inputWords (some q) (some (word.getD [] ++ [c])) cs

/-- A text with another one in the place of each occurrence of a mark. -/
def replacedIn (mark value : ByteText) : Nat → ByteText → ByteText
  | 0, t => t
  | _, [] => []
  | fuel + 1, c :: cs =>
    if !mark.isEmpty && mark.isPrefixOf (c :: cs) then
      value ++ replacedIn mark value fuel ((c :: cs).drop mark.length)
    else c :: replacedIn mark value fuel cs

/-- Groups of no more than a number of things. -/
def groupsOf {α : Type} (size : Nat) : Nat → List α → List (List α)
  | 0, _ => []
  | _, [] => []
  | fuel + 1, xs => xs.take (max size 1) :: groupsOf size fuel (xs.drop (max size 1))

/-- What `xargs` is to read: the items of the input, or what is wrong with it. -/
def inputItems (o : Options) (text : ByteText) : Except ByteText (List ByteText) :=
  let marked := (o.value? 'd').bind fun t => (unescape true t).1.head?
  let separated (mark : Char) : List ByteText :=
    let parts := pieces (fun c => c = mark) text
    if parts.getLast? = some [] then parts.dropLast else parts
  if o.has '0' then .ok (separated '\x00')
  else
    match marked with
    | some mark => .ok (separated mark)
    | none =>
      let words (t : ByteText) : Except ByteText (List ByteText) := (inputWords none none t).mapError fun q =>
        "unmatched ".toList ++ (if q = '"' then "double" else "single").toList
          ++ " quote; by default quotes are special to xargs unless you use the -0 option".toList
      if o.has 'I' then
        .ok (((linesOfText text).map fun l => unquoted (l.dropWhile isGap)).filter fun t => !t.isEmpty)
      else words text
where
  /-- A text without its quotes and backslashes. -/
  unquoted : ByteText → ByteText
    | [] => []
    | '\\' :: c :: cs => c :: unquoted cs
    | c :: cs => if c = '"' || c = '\'' then unquoted cs else c :: unquoted cs

/-- The number that an option is given, which is at least one. -/
def countOf (o : Options) (letter : Char) : Except ByteText (Option Nat) :=
  match o.value? letter with
  | none => .ok none
  | some t =>
    match readDecimal? t with
    | none => .error ("invalid number \"".toList ++ t ++ "\" for -".toList ++ letter :: " option".toList)
    | some n =>
      if 1 ≤ n then .ok (some n.toNat)
      else .error ("value ".toList ++ t ++ " for -".toList ++ letter :: " option should be >= 1".toList)

/-- Run a command with arguments from the input. -/
def xargs (starter : Starter) : Utility := fun name arguments => do
  match Options.readLeading? "0rtxpo" "nILPsdaE"
      [("null", '0'), ("no-run-if-empty", 'r'), ("max-args", 'n'), ("max-lines", 'L'), ("delimiter", 'd'),
       ("arg-file", 'a'), ("verbose", 't')] arguments with
  | .error complaint => misuse name complaint 1
  | .ok o =>
    match countOf o 'n', countOf o 'L', countOf o 's' with
    | .ok most?, .ok lines?, .ok _ =>
      match ← inputOf o with
      | .error complaint => refuse name complaint 1
      | .ok text =>
        match inputItems o text with
        | .error complaint => refuse name complaint 1
        | .ok items => runAll name o ((most?.orElse fun _ => lines?).getD (max items.length 1)) items
    | .error complaint, _, _ => misuse name complaint 1
    | _, .error complaint, _ => misuse name complaint 1
    | _, _, .error complaint => misuse name complaint 1
where
  /-- The text to be read. -/
  inputOf (o : Options) : Shell (Except ByteText ByteText) := do
    match o.value? 'a' with
    | none => .ok <$> Shell.readAll 0
    | some path =>
      return (← Shell.contentOf path).mapError fun fault =>
        "Cannot open input file ".toList ++ quoted path ++ ": ".toList ++ faultText fault
  /-- Run the command for groups of items. -/
  runAll (name : ByteText) (o : Options) (size : Nat) (items : List ByteText) : Shell Nat := do
    let words : List ByteText := if o.operands.isEmpty then ["echo".toList] else o.operands
    let calls := match o.value? 'I' with
      | some mark => items.map fun item => words.map fun (w : ByteText) => replacedIn mark item (w.length + 1) w
      | none =>
        if items.isEmpty then (if o.has 'r' then [] else [words])
        else (groupsOf size items.length items).map fun group => words ++ group
    calls.foldlM (fun code call => do
      if 124 ≤ code then pure code
      else
        match call with
        | [] => pure code
        | command :: arguments =>
          if o.has 't' then Shell.warn (spaced (call.map shownPath))
          let killed (signal : Nat) : Shell Nat :=
            refuse name (command ++ ": terminated by signal ".toList ++ .ofNat signal) 125
          let own ← Shell.apartWith killed none (start starter name command command arguments)
          if own = 255 then refuse name (command ++ ": exited with status 255; aborting".toList) 124
          else pure (if own = 0 then code else if 125 ≤ own && own ≤ 127 then own else 123)) 0

end Utility

end Script

end LinearProgram
