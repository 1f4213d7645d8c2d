import LinearProgram.Script.Expand
import LinearProgram.Script.Formatted
import LinearProgram.Script.Condition
import LinearProgram.Script.Signal
import LinearProgram.Script.Utility.Table

/-!
Commands that are part of the shell and run no other commands.

* `Builtin`: what such a command does.
* `Builtin.options`: the options of a call.
* `Builtin.cd`, `Builtin.read`, `Builtin.set`, …: the commands one by one.
* `Builtin.special`, `Builtin.regular`: all of them by name.
-/

namespace LinearProgram

namespace Script

/-- A command of the shell: what it does when it is called with arguments. -/
abbrev Builtin := List ByteText → Shell Nat

namespace Builtin

/-! ### Arguments -/

/-- The options that arguments begin with, and the other arguments. A letter that is not known is a mistake. -/
def optionsFrom (plain valued : List Char) : Nat → List ByteText → Shell (List (Char × ByteText) × List ByteText)
  | 0, arguments => pure ([], arguments)
  | _, [] => pure ([], [])
  | fuel + 1, argument :: rest =>
    match argument with
    | ['-', '-'] => pure ([], rest)
    | '-' :: c :: cs => do
      let (given, rest) ← letters (c :: cs) rest
      let (more, rest) ← optionsFrom plain valued fuel rest
      pure (given ++ more, rest)
    | argument => pure ([], argument :: rest)
where
  /-- The options in the letters of an argument. -/
  letters : ByteText → List ByteText → Shell (List (Char × ByteText) × List ByteText)
    | [], rest => pure ([], rest)
    | c :: cs, rest =>
      if valued.contains c then
        match cs, rest with
        | [], [] => Shell.fail ("No arg for -".toList ++ c :: " option".toList)
        | [], value :: rest => pure ([(c, value)], rest)
        | value, rest => pure ([(c, value)], rest)
      else if plain.contains c then do
        let (given, rest) ← letters cs rest
        pure ((c, []) :: given, rest)
      else Shell.fail ("Illegal option -".toList ++ [c])

/-- The options that arguments begin with, and the other arguments. -/
def options (plain valued : String) (arguments : List ByteText) : Shell (List (Char × ByteText) × List ByteText) :=
  optionsFrom plain.toList valued.toList (arguments.length + 1) arguments

/-- The number that an argument writes. -/
def number (t : ByteText) : Shell Nat := do
  match readCount? t with
  | some n => pure n
  | none => Shell.fail ("Illegal number: ".toList ++ t)

/-- Make sure that a text is a name. -/
def requireName (name : ByteText) : Shell Unit := do
  if !isName name then Shell.fail (name ++ ": bad variable name".toList)

/-! ### Output -/

/-- Complain about output that has not been written, and fail. -/
def refuseOutput : Shell Nat := do
  Shell.complain (((← get).command.getD []) ++ ": I/O error".toList)
  pure 1

/-- Write a text, or complain if it cannot be written. -/
def sayOrRefuse (text : ByteText) (code : Nat) : Shell Nat := do
  match ← Shell.put 1 text with
  | none => pure code
  | some _ => refuseOutput

/-- Run a part of the shell, and complain if it has not been able to write its output. -/
def heard (act : Builtin) : Builtin := fun arguments => do
  modify fun p => { p with unsaid := none }
  let code ← act arguments
  if (← get).unsaid.isSome then
    modify fun p => { p with unsaid := none }
    refuseOutput
  else pure code

/-- Write the arguments with their escape sequences replaced. -/
def echo : Builtin := fun arguments => do
  let short := arguments.head? = some "-n".toList
  let (text, goesOn) := unescape false (spaced (if short then arguments.drop 1 else arguments))
  sayOrRefuse (if short || !goesOn then text else text ++ ['\n']) 0

/-- Write what a format makes of arguments. -/
def printf : Builtin := fun arguments => do
  let (_, arguments) ← options "" "" arguments
  match arguments with
  | [] => Shell.fail "usage: printf format [arg ...]".toList
  | format :: arguments =>
    let pass ← formatAll "printf".toList format (arguments.length + 1) ⟨arguments, [], true, true⟩
    sayOrRefuse pass.texts.reverse.flatten (if pass.fine then 0 else 1)

/-! ### Conditions -/

/-- Tell whether a condition holds. -/
def test : Builtin := fun arguments => return if ← Condition.eval arguments then 0 else 1

/-- Tell whether a condition holds that a bracket closes. -/
def bracket : Builtin := fun arguments => do
  if arguments.getLast? = some [']'] then test arguments.dropLast else Shell.fail "missing ]".toList

/-! ### The working directory -/

/-- Write the path of the working directory. -/
def pwd : Builtin := fun arguments => do
  let (given, _) ← options "LP" "" arguments
  let isPhysical := (given.getLast?.map Prod.fst) = some 'P'
  let p ← get
  sayOrRefuse (.ofString (if isPhysical then Shell.placeText p.directory else p.path) ++ ['\n']) 0

/-- Put down the path of the working directory. -/
def setPath (name : String) (path : String) : Shell Unit := do
  Shell.assign name.toList (.ofString path)
  Shell.setParameter name.toList (some ⟨some (.ofString path), true, false⟩)

/-- Whether a path is not looked for in the directories of a parameter. -/
def isSettled (path : ByteText) : Bool :=
  let first := path.takeWhile fun c => c ≠ '/'
  path.head? = some '/' || first = ['.'] || first = ['.', '.']

/-- The path to which one goes from a path. Two slashes at the beginning are kept, unlike more of them. -/
def pathFrom (before wanted : String) : String :=
  let base := if Files.isAbsolute wanted then "" else before
  let isDouble := ((base ++ wanted).toList.takeWhile fun c => c = '/').length = 2
  let names := (Files.namesOf wanted).foldl (fun names name =>
    if name = "" || name = "." then names else if name = ".." then names.dropLast else names ++ [name])
    ((Files.namesOf base).filter fun name => name ≠ "")
  (if isDouble then "/" else "") ++ Files.pathThrough names

/-- Go to another directory. -/
def cd : Builtin := fun arguments => do
  let (given, operands) ← options "LP" "" arguments
  let isPhysical := (given.getLast?.map Prod.fst) = some 'P'
  let back := operands.head? = some ['-']
  let told : ByteText ← match operands with
    | [] => (Option.getD · []) <$> Shell.valueOf "HOME".toList
    | wanted :: _ => if back then (Option.getD · []) <$> Shell.valueOf "OLDPWD".toList else pure wanted
  let wanted := if told.isEmpty then ['.'] else told
  let searched := (← Shell.valueOf "CDPATH".toList).filter fun _ => !isSettled told
  let fronts := (searched.map fun t => pieces (fun c => c = ':') t).getD []
  let candidates := fronts.map fun front => (front, if front.isEmpty then wanted else front ++ '/' :: wanted)
  let p ← get
  let fs := p.world.files
  let chosen := (candidates.find? fun e => fs.isDirectory (Shell.seenFrom p e.2)).getD ([], wanted)
  let path := if isPhysical then Shell.seenFrom p chosen.2 else pathFrom p.path (ByteText.string chosen.2)
  match fs.find path with
  | .ok (place, .directory) =>
    let shown := if isPhysical then Shell.placeText place else path
    setPath "OLDPWD" p.path
    modify fun p =>
      { p with directory := place, path := shown, known := p.known.map fun e => (e.1, { e.2 with stale := true }) }
    setPath "PWD" shown
    if back || !chosen.1.isEmpty then Shell.sayLine (.ofString shown)
    pure 0
  | _ => Shell.fail ("can't cd to ".toList ++ wanted)

/-! ### Input -/

/-- The characters of a line that is read, marked where a backslash stands in front of them, and whether the line goes
on. -/
def markedLine (raw : Bool) : ByteText → Marked × Bool
  | [] => ([], false)
  | ['\\'] => if raw then ([('\\', false)], false) else ([], true)
  | '\\' :: c :: cs =>
    if raw then
      let (m, unfinished) := markedLine raw (c :: cs)
      (('\\', false) :: m, unfinished)
    else
      let (m, unfinished) := markedLine raw cs
      ((c, true) :: m, unfinished)
  | c :: cs =>
    let (m, unfinished) := markedLine raw cs
    (if c = '\x00' then m else (c, false) :: m, unfinished)

/-- Read a line, which may go on over the ends of lines, and tell whether it has an end. -/
def readMarked (raw : Bool) : Nat → Shell (List Marked × Bool)
  | 0 => pure ([], false)
  | fuel + 1 => do
    let line ← Shell.readLine 0
    let ended := line.getLast? = some '\n'
    let (m, goesOn) := markedLine raw (if ended then line.dropLast else line)
    if goesOn && ended then
      let (rest, ended) ← readMarked raw fuel
      pure (m :: rest, ended)
    else pure ([m], ended)

/-- How many ends of lines a line may go on over. -/
def longestLine : Nat := 100000

/-- Read a line and give its fields to parameters. -/
def read : Builtin := fun arguments => do
  let (given, names) ← options "r" "p" arguments
  if names.isEmpty then Shell.fail "arg count".toList
  let (parts, ended) ← readMarked (given.any fun e => e.1 = 'r') longestLine
  let values := splitAmong (← separators) names.length parts
  for (name, value) in names.zip values do
    requireName name
    Shell.assign name value
  pure (if ended then 0 else 1)

/-! ### Parameters -/

/-- A text in quotes as the shell reads it. -/
def quotedForShell (t : ByteText) : ByteText :=
  ['\''] ++ t.flatMap (fun c => if c = '\'' then "'\"'\"'".toList else [c]) ++ ['\'']

/-- The lines that tell about some parameters. -/
def parameterLines (before : String) (chosen : Variable → Bool) : Shell ByteText := do
  let shown := ((← get).parameters.filter fun e => chosen e.2).mergeSort fun a b => ByteText.inOrder a.1 b.1
  return shown.flatMap fun (name, v) =>
    before.toList ++ name ++ ((v.value.map fun value => '=' :: quotedForShell value).getD []) ++ ['\n']

/-- A name, and a value if there is an equals sign. -/
def splitSetting (t : ByteText) : ByteText × Option ByteText :=
  let name := t.takeWhile fun c => c ≠ '='
  (name, if t.contains '=' then some (t.drop (name.length + 1)) else none)

/-- Mark parameters, which may get values. -/
def marking (word : String) (chosen : Variable → Bool) (mark : Variable → Variable) : Builtin := fun arguments => do
  let (given, operands) ← options "p" "" arguments
  if operands.isEmpty || !given.isEmpty then sayOrRefuse (← parameterLines (word ++ " ") chosen) 0
  else
    for operand in operands do
      let (name, value) := splitSetting operand
      requireName name
      if let some value := value then Shell.assign name value
      let v := (← Shell.parameter? name).getD ⟨none, false, false⟩
      Shell.setParameter name (some (mark v))
    pure 0

/-- Let programs see parameters. -/
def export' : Builtin := marking "export" (·.exported) fun v => { v with exported := true }

/-- Make parameters stay as they are. -/
def readonly : Builtin := marking "readonly" (·.fixed) fun v => { v with fixed := true }

/-- Remove parameters or functions. -/
def unset : Builtin := fun arguments => do
  let (given, names) ← options "vf" "" arguments
  for name in names do
    if (given.getLast?.map Prod.fst) = some 'f' then
      modify fun p => { p with functions := p.functions.filter fun f => f.1 ≠ name }
    else
      requireName name
      match ← Shell.parameter? name with
      | some v =>
        if v.fixed then Shell.fail (name ++ ": is read only".toList)
        Shell.resetParameter name none
      | none =>
        if !given.any (fun e => e.1 = 'v') then
          modify fun p => { p with functions := p.functions.filter fun f => f.1 ≠ name }
  pure 0

/-- Make parameters of a function its own. -/
def local' : Builtin := fun arguments => do
  match (← get).saved with
  | [] => Shell.fail "not in a function".toList
  | own :: outer =>
    let mut own := own
    for argument in arguments do
      let (name, value) := splitSetting argument
      if argument ≠ ['-'] then
        requireName name
        if !own.any fun e => e.1 = name then own := (name, ← Shell.parameter? name) :: own
        if let some value := value then Shell.assign name value
    modify fun p => { p with saved := own :: outer }
    pure 0

/-- Set or clear an option. -/
def setOption (on : Bool) (letter : Char) : Shell Unit :=
  modify fun p =>
    let others := p.options.filter fun c => c ≠ letter
    { p with options := if on then others ++ [letter] else others }

/-- The options that change nothing. -/
def silentOptions : List ByteText := ["nolog".toList, "debug".toList]

/-- Set options by letters, and tell what else there is, and whether that takes the place of the arguments. -/
def readSettings : Nat → List ByteText → Shell (List ByteText × Bool)
  | 0, arguments => pure (arguments, true)
  | _, [] => pure ([], false)
  | fuel + 1, argument :: rest =>
    match argument with
    | ['-', '-'] => pure (rest, true)
    | ['-'] => do
      setOption false 'x'
      setOption false 'v'
      pure (rest, !rest.isEmpty)
    | sign :: c :: cs =>
      if sign = '-' || sign = '+' then do
        let rest ← (c :: cs).foldlM (fun rest c => letter (decide (sign = '-')) c rest) rest
        readSettings fuel rest
      else pure (argument :: rest, true)
    | argument => pure (argument :: rest, true)
where
  /-- Set or clear the option of a letter. -/
  letter (on : Bool) (c : Char) (rest : List ByteText) : Shell (List ByteText) := do
    if c = 'o' then
      match rest with
      | [] =>
        let p ← get
        let line (e : String × Char) : ByteText :=
          let state := if p.options.contains e.2 then "on" else "off"
          e.1.toList ++ List.replicate (16 - e.1.length) ' ' ++ state.toList
        let setting (e : String × Char) : ByteText :=
          "set ".toList ++ (if p.options.contains e.2 then '-' else '+') :: "o ".toList ++ e.1.toList
        if on then
          let silent := silentOptions.map fun name => name ++ List.replicate (16 - name.length) ' ' ++ "off".toList
          Shell.say (unlines ("Current option settings".toList :: optionNames.map line ++ silent))
        else Shell.say (unlines (optionNames.map setting ++ silentOptions.map fun name => "set +o ".toList ++ name))
        pure []
      | name :: rest =>
        match optionNames.lookup (String.ofList name) with
        | some c =>
          setOption on c
          pure rest
        | none =>
          if silentOptions.contains name then pure rest else Shell.fail ("Illegal option -o ".toList ++ name)
    else if c ≠ 'o' && (optionNames.any fun e => e.2 = c) then
      setOption on c
      pure rest
    else Shell.fail ("Illegal option -".toList ++ [c])

/-- Set options and arguments, or list the parameters. -/
def set : Builtin := fun arguments => do
  if arguments.isEmpty then sayOrRefuse (← parameterLines "" fun v => v.value.isSome) 0
  else
    let (arguments, replaces) ← readSettings (arguments.length + 1) arguments
    if replaces then
      modify fun p => { p with arguments, optionPlace := .first }
    pure 0

/-- Drop the first arguments. -/
def shift : Builtin := fun arguments => do
  let count ← match arguments with
    | [] => pure 1
    | t :: _ => number t
  if (← get).arguments.length < count then Shell.fail "can't shift that many".toList
  modify fun p => { p with arguments := p.arguments.drop count, optionPlace := .first }
  pure 0

/-! ### Words that stand for others -/

/-- The place in which the shell keeps a word that stands for a text. -/
def aliasSlot (name : ByteText) : Nat :=
  let codes := name.map Char.toNat
  ((codes.headD 0) * 16 % 256 + codes.foldl (· + ·) 0) % 39

/-- What a word stands for, as the shell reads it. -/
def aliasText (e : ByteText × ByteText) : ByteText := e.1 ++ '=' :: quotedForShell e.2

/-- Say what words stand for, or tell it. -/
def putAlias : Builtin := fun arguments => do
  if arguments.isEmpty then
    let shown := (← get).aliases.mergeSort fun a b => decide (aliasSlot a.1 ≤ aliasSlot b.1)
    sayOrRefuse (unlines (shown.map aliasText)) 0
  else
    arguments.foldlM (fun code t => do
      let (name, text?) := splitSetting t
      let before := (← get).aliases
      match text?, before.lookup name with
      | some text, known =>
        let aliases := if known.isSome then before.map fun e => if e.1 = name then (name, text) else e
          else before ++ [(name, text)]
        modify fun p => { p with aliases }
        pure code
      | none, some text => sayOrRefuse (aliasText (name, text) ++ ['\n']) code
      | none, none =>
        Shell.warn ("alias: ".toList ++ name ++ " not found".toList)
        pure 1) 0

/-- Let words stand for nothing but themselves. -/
def unalias : Builtin := fun arguments => do
  let (given, names) ← options "a" "" arguments
  if !given.isEmpty then
    modify fun p => { p with aliases := [] }
    pure 0
  else
    names.foldlM (fun code name => do
      if ((← get).aliases.lookup name).isNone then
        Shell.warn ("unalias: ".toList ++ name ++ " not found".toList)
        pure 1
      else
        modify fun p => { p with aliases := p.aliases.filter fun e => e.1 ≠ name }
        pure code) 0

/-! ### Options of scripts -/

/-- What `getopts` finds: the letter, its value, where the search goes on, and what is wrong. -/
structure OptionFound where
  letter : Char
  value : Option ByteText
  place : OptionPlace
  complaint : Option ByteText

/-- The letters from a given one on, if it is one of them. A colon behind a letter is none. -/
def lettersFrom (c : Char) : ByteText → ByteText
  | [] => []
  | d :: ':' :: ds => if d = c then d :: ':' :: ds else lettersFrom c ds
  | d :: ds => if d = c then d :: ds else lettersFrom c ds

/-- The next option among arguments, and the number of the argument behind it. -/
def nextOption (letters : ByteText) (arguments : List ByteText) (place : OptionPlace) : Option OptionFound × Nat :=
  let silent := letters.head? = some ':'
  let current := arguments[place.next - 2]?.getD []
  let inside := decide (1 < place.next) && decide (0 < place.taken) && decide (place.taken < current.length)
  let begin := if inside then some (current, place.taken, place.next)
    else
      match arguments[place.next - 1]? with
      | some ('-' :: c :: cs) => some ('-' :: c :: cs, 1, place.next + 1)
      | _ => none
  match begin with
  | none => (none, place.next)
  | some (['-', '-'], 1, after) => (none, after)
  | some (word, index, after) =>
    let c := word[index]?.getD '?'
    let behind : OptionPlace := ⟨after, if index + 1 < word.length then index + 1 else 0⟩
    match lettersFrom c letters with
    | _ :: ':' :: _ =>
      if index + 1 < word.length then (some ⟨c, some (word.drop (index + 1)), .argument after, none⟩, after)
      else
        match arguments[after - 1]? with
        | some value => (some ⟨c, some value, .argument (after + 1), none⟩, after + 1)
        | none =>
          if silent then (some ⟨':', some [c], behind, none⟩, after)
          else (some ⟨'?', none, behind, some ("No arg for -".toList ++ c :: " option".toList)⟩, after)
    | _ :: _ => (some ⟨c, some [], behind, none⟩, after)
    | [] =>
      if silent then (some ⟨'?', some [c], behind, none⟩, after)
      else (some ⟨'?', none, behind, some ("Illegal option -".toList ++ [c])⟩, after)

/-- Give the next option of the arguments to a parameter. The search begins anew if it has gone beyond them. -/
def getopts : Builtin := fun arguments => do
  match arguments with
  | letters :: name :: given =>
    let p ← get
    let words := if given.isEmpty then p.arguments else given
    let known := decide (0 < p.optionPlace.next) && decide (p.optionPlace.next ≤ words.length + 1)
    let (found, after) := nextOption letters words (if known then p.optionPlace else .first)
    modify fun p => { p with optionPlace := .lost }
    if let some f := found then
      if let some complaint := f.complaint then Shell.warn complaint
      match f.value with
      | some value => Shell.assign "OPTARG".toList value
      | none => Shell.setParameter "OPTARG".toList none
    Shell.assignAfter (pure ()) "OPTIND".toList (.ofNat after)
    requireName name
    Shell.assign name [(found.map (·.letter)).getD '?']
    modify fun p => { p with optionPlace := (found.map (·.place)).getD (.argument after) }
    pure (if found.isSome then 0 else 1)
  | _ => Shell.fail "Usage: getopts optstring var [arg...]".toList

/-! ### Leaving -/

/-- End the process. -/
def exit : Builtin := fun arguments => do
  match arguments with
  | [] =>
    let p ← get
    throw (.exit (p.leaving.getD p.lastCode))
  | t :: _ => throw (.exit ((← number t) % 256))

/-- End a function or a script that is read in. -/
def return' : Builtin := fun arguments => do
  match arguments with
  | [] => throw (.return (← get).lastCode)
  | t :: _ => throw (.return (← number t))

/-- The number of loops that an argument tells, if any are being run. -/
def loopCount (arguments : List ByteText) : Shell Nat := do
  let n ← match arguments with
    | [] => pure 1
    | t :: _ =>
      let n ← number t
      if n = 0 then Shell.fail ("Illegal number: ".toList ++ t) else pure n
  return min n (← get).loops

/-- End loops. -/
def break' : Builtin := fun arguments => do
  match ← loopCount arguments with
  | 0 => pure 0
  | n => throw (.break n)

/-- Go on with the next round of a loop. -/
def continue' : Builtin := fun arguments => do
  match ← loopCount arguments with
  | 0 => pure 0
  | n => throw (.continue n)

/-! ### Signals -/

/-- Say what is done when signals come, or at the end. -/
def trap : Builtin := fun arguments => do
  let (_, operands) ← options "" "" arguments
  match operands with
  | [] =>
    let shown := (← get).traps.mergeSort fun a b => decide (a.1 ≤ b.1)
    sayOrRefuse (shown.flatMap fun (n, action) =>
      "trap -- ".toList ++ quotedForShell action ++ ' ' :: ((Signal.name? n).getD "").toList ++ ['\n']) 0
  | first :: rest =>
    let isNumber := first.all isDigit && (Signal.ofText? first).isSome
    let (action, signals) := if rest.isEmpty || isNumber then (none, first :: rest)
      else (if first = ['-'] then none else some first, rest)
    signals.foldlM (fun code t => do
      if code ≠ 0 then pure code
      else
        match Signal.ofText? t with
        | some n =>
          modify fun p =>
            let others := p.traps.filter fun e => e.1 ≠ n
            { p with traps := match action with
                | some action => (n, action) :: others
                | none => others }
          pure 0
        | none =>
          Shell.warn ("trap: ".toList ++ t ++ ": bad trap".toList)
          pure 1) 0

/-! ### Limits and times -/

/-- Tell or set the permissions that new files do not get. -/
def umask : Builtin := fun arguments => do
  let (given, operands) ← options "S" "" arguments
  let mask := (← get).mask
  match operands with
  | [] =>
    let told := if given.isEmpty then octal mask
      else [','].intercalate (["u", "g", "o"].zip (digits mask) |>.map fun (who, d) => who.toList ++ '=' :: letters d)
    sayOrRefuse (told ++ ['\n']) 0
  | t :: _ =>
    if (t.head?.map isDigit).getD false then
      match valueToBase? 8 t with
      | some n => modify fun p => { p with mask := n % 512 }
      | none => Shell.fail ("Illegal number: ".toList ++ t)
    else
      match (pieces (fun c => c = ',') t).foldlM changed? (511 - mask) with
      | some mode => modify fun p => { p with mask := 511 - mode }
      | none => Shell.fail ("Illegal mode: ".toList ++ t)
    pure 0
where
  /-- The places of the digits that some letters mean. -/
  places (who : ByteText) : List Nat :=
    let all := who.isEmpty || who.contains 'a'
    [('u', 64), ('g', 8), ('o', 1)].filterMap fun (letter, place) =>
      if all || who.contains letter then some place else none
  /-- Permissions changed by letters behind a sign. -/
  changed? (mode : Nat) (clause : ByteText) : Option Nat := do
    let who := clause.takeWhile fun c => "ugoa".toList.contains c
    let changes := clause.drop who.length
    if changes.isEmpty then none
    else (changes.foldlM (step (places who)) (mode, ' ')).map Prod.fst
  /-- Permissions changed by one letter or sign, the sign in front of it being known. -/
  step (places : List Nat) (state : Nat × Char) (c : Char) : Option (Nat × Char) :=
    let (mode, sign) := state
    let own? : Option Nat := match c with
      | 'r' => some 4
      | 'w' => some 2
      | 'x' => some 1
      | 'X' => some (if Nat.land mode 73 = 0 then 0 else 1)
      | 's' => some 0
      | 't' => some 0
      | 'u' => some (mode / 64 % 8)
      | 'g' => some (mode / 8 % 8)
      | 'o' => some (mode % 8)
      | _ => none
    if c = '+' || c = '-' then some (mode, c)
    else if c = '=' then some (Nat.land mode (511 - (places.map fun p => 7 * p).foldl Nat.lor 0), c)
    else if sign = ' ' then none
    else own?.map fun own =>
      let bits := (places.map fun p => own * p).foldl Nat.lor 0
      (if sign = '-' then Nat.land mode (511 - bits) else Nat.lor mode bits, sign)
  /-- The three digits of a mask. -/
  digits (mask : Nat) : List Nat := [mask / 64 % 8, mask / 8 % 8, mask % 8]
  /-- A mask as it is told. -/
  octal (mask : Nat) : ByteText := '0' :: (digits mask).flatMap ByteText.ofNat
  /-- The permissions that a digit of a mask leaves. -/
  letters (d : Nat) : ByteText :=
    [(4, 'r'), (2, 'w'), (1, 'x')].filterMap fun (bit, letter) => if d / bit % 2 = 0 then some letter else none

/-- Tell or set how much a process may use. -/
def ulimit : Builtin := fun arguments => do
  let (given, operands) ← options "HSatfdscmlpnvwr" "" arguments
  let letters := given.map Prod.fst
  let limits := (← get).limits
  let letter := (letters.reverse.find? fun c => !"HSa".toList.contains c).getD 'f'
  let side := letters.reverse.find? fun c => c = 'H' || c = 'S'
  let told (r : Resource) : ByteText :=
    let l := limits.of r.letter
    match if side = some 'H' then l.hard else l.soft with
    | some n => ByteText.ofNat (n / r.unit) ++ ['\n']
    | none => "unlimited\n".toList
  match Resource.all.filter fun r => letters.contains 'a' || r.letter = letter, operands with
  | resources, [] =>
    let heading (r : Resource) : ByteText := r.label.toList ++ List.replicate (20 - r.label.length) ' ' ++ [' ']
    let listed (r : Resource) : ByteText := if letters.contains 'a' then heading r ++ told r else told r
    sayOrRefuse (resources.flatMap listed) 0
  | [r], [t] =>
    let value ← if t = "unlimited".toList then pure none
      else if t.all isDigit then pure (some (valueOfDigits t * r.unit))
      else Shell.fail "bad number".toList
    let l := limits.of letter
    let l : Limit := ⟨if side = some 'H' then l.soft else value, if side = some 'S' then l.hard else value⟩
    if !l.isSound then Shell.fail "error setting limit: Invalid argument".toList
    modify fun p => { p with limits := p.limits.put letter l }
    pure 0
  | _, _ => Shell.fail "too many arguments".toList

/-- Tell the times that a process has taken. -/
def times : Builtin := fun _ => sayOrRefuse "0m0.000000s 0m0.000000s\n0m0.000000s 0m0.000000s\n".toList 0

/-! ### All of them -/

/-- The commands whose failures end a script, without those that run other commands. -/
def special : List (String × Builtin) :=
  [(":", fun _ => pure 0), ("break", break'), ("continue", continue'), ("exit", exit), ("export", export'),
   ("readonly", readonly), ("return", return'), ("set", set), ("shift", shift), ("times", times), ("trap", trap),
   ("unset", unset), ("local", local')]

/-- The other commands, without those that run other commands. -/
def regular : List (String × Builtin) :=
  [("[", bracket), ("cd", cd), ("chdir", cd), ("echo", echo), ("false", fun _ => pure 1), ("getopts", getopts),
   ("printf", printf), ("pwd", pwd), ("read", read), ("test", test), ("true", fun _ => pure 0), ("ulimit", ulimit),
   ("umask", umask), ("alias", putAlias), ("unalias", unalias)]

end Builtin

end Script

end LinearProgram
