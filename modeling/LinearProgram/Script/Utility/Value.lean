import LinearProgram.Script.Utility.Basic

/-!
Utilities that answer with a value or with nothing but an exit code.

* `echo`, `printf`, `yes`: the arguments themselves.
* `Condition.eval`, `test`: whether a condition holds. What is wrong with one is said in other words than the shell's.
* `basename`, `dirname`: parts of paths.
* `sleep`: time passes.
* `pwd`, `printenv`, `date`, `uname`, `id`: what surrounds a process.
-/

namespace LinearProgram

namespace Script

namespace Utility

/-! ### Arguments -/

/-- Do nothing, and succeed. -/
def succeed : Utility := fun _ _ => pure 0

/-- Do nothing, and fail. -/
def failure : Utility := fun _ _ => pure 1

/-- Write the arguments, in which escape sequences are replaced only if an option says so. -/
def echo : Utility := fun _ arguments => do
  let isOption (a : ByteText) : Bool := a.head? = some '-' && 1 < a.length && (a.drop 1).all "neE".toList.contains
  let options := arguments.takeWhile isOption
  let letters := options.flatten
  let text := spaced (arguments.drop options.length)
  let escapes := (letters.filter fun c => c = 'e' || c = 'E').getLast? = some 'e'
  let (text, goesOn) := if escapes then unescape true text else (text, true)
  Shell.say (if letters.contains 'n' || !goesOn then text else text ++ ['\n'])
  pure 0

/-- Write what a format makes of arguments. -/
def printf : Utility := fun name arguments => do
  match if arguments.head? = some ['-', '-'] then arguments.drop 1 else arguments with
  | [] => misuse name "missing operand".toList 1
  | format :: arguments => return if ← formatted name format arguments then 0 else 1

/-- How many lines `yes` writes at a time. -/
def plenty : Nat := 10000

/-- Write the arguments again and again: into a pipe until nobody reads it, and else until the time is up. -/
def yes : Utility := fun _ arguments => do
  let line := (if arguments.isEmpty then ['y'] else spaced arguments) ++ ['\n']
  let lines := (List.replicate plenty line).flatten
  let room := match ← Shell.channel? 1 with
    | some (_, .pipe p) =>
      match p.supply with
      | .filling (some room) _ => room
      | _ => 0
    | _ => 0
  for _ in List.range (room / lines.length + 2) do Shell.say lines
  if (← get).unsaid.isSome then pure 1 else throw .overran

/-! ### Conditions -/

namespace Condition

/-- Fail because a condition is not in order. -/
def refused {α : Type} (name complaint : ByteText) : Shell α := do
  complain name complaint
  throw .mistake

/-- Something is missing behind the last word of a condition. -/
def refusedEnd {α : Type} (name : ByteText) (words : List ByteText) : Shell α :=
  refused name ("missing argument after ".toList ++ quoted (words.getLast?.getD []))

/-- Make sure that a word is a number. -/
def requireNumber (name word : ByteText) : Shell Unit := do
  if (readDecimal? word).isNone then refused name ("invalid integer ".toList ++ quoted word)

/-- Whether a word is written like an operator in front of a word. -/
def isUnary (word : ByteText) : Bool := word.length = 2 && word.head? = some '-'

/-- Whether a word is an operator between two words. -/
def isBinary (word : ByteText) : Bool := Script.Condition.binaryOperators.contains (String.ofList word)

/-- Whether an operator holds of a word. -/
def unary (name op word : ByteText) : Shell Bool := do
  if !Script.Condition.unaryOperators.contains (String.ofList op) then
    refused name (quoted op ++ ": unary operator expected".toList)
  if op = "-t".toList then requireNumber name word
  Script.Condition.unary (String.ofList op) word

/-- Whether an operator holds of two words. -/
def binary (name a op b : ByteText) : Shell Bool := do
  if ["-eq", "-ne", "-lt", "-le", "-gt", "-ge"].contains (String.ofList op) then
    requireNumber name a
    requireNumber name b
  Script.Condition.binary a (String.ofList op) b

mutual

/-- Whether a condition with `-o` holds, and the words behind it; `all` holds all words. -/
def readEither (name : ByteText) (all : List ByteText) : Nat → List ByteText → Shell (Bool × List ByteText)
  | 0, words => pure (false, words)
  | fuel + 1, words => do
    let (holds, rest) ← readAll name all fuel words
    if rest.head? = some "-o".toList then
      let (other, rest) ← readEither name all fuel (rest.drop 1)
      pure (holds || other, rest)
    else pure (holds, rest)

/-- Whether a condition with `-a` holds, and the words behind it. -/
def readAll (name : ByteText) (all : List ByteText) : Nat → List ByteText → Shell (Bool × List ByteText)
  | 0, words => pure (false, words)
  | fuel + 1, words => do
    let (holds, rest) ← readTerm name all fuel words
    if rest.head? = some "-a".toList then
      let (other, rest) ← readAll name all fuel (rest.drop 1)
      pure (holds && other, rest)
    else pure (holds, rest)

/-- Whether a condition without operators between conditions holds, and the words behind it. -/
def readTerm (name : ByteText) (all : List ByteText) : Nat → List ByteText → Shell (Bool × List ByteText)
  | 0, words => pure (false, words)
  | _, [] => refusedEnd name all
  | fuel + 1, word :: rest => do
    match rest with
    | op :: other :: behind =>
      if word ≠ ['!'] && word ≠ ['('] && isBinary op then return (← binary name word op other, behind)
    | _ => pure ()
    if word = ['!'] then
      let (holds, rest) ← readTerm name all fuel rest
      pure (!holds, rest)
    else if word = ['('] then
      let (holds, rest) ← readEither name all fuel rest
      match rest with
      | [')'] :: rest => pure (holds, rest)
      | [] => refused name "')' expected".toList
      | other :: _ => refused name ("')' expected, found ".toList ++ other)
    else if isUnary word then
      match rest with
      | [] => refusedEnd name all
      | other :: rest => return (← unary name word other, rest)
    else pure (!word.isEmpty, rest)

end

/-- Whether a condition of any number of words holds. -/
def evalLong (name : ByteText) (words : List ByteText) : Shell Bool := do
  let (holds, rest) ← readEither name words (4 * words.length + 4) words
  match rest with
  | [] => pure holds
  | word :: _ => refused name ("extra argument ".toList ++ quoted word)

/-- Whether a condition of two words holds. -/
def evalTwo (name : ByteText) (a b : ByteText) : Shell Bool :=
  if a = ['!'] then pure b.isEmpty
  else if isUnary a then unary name a b
  else refusedEnd name [b]

/-- Whether a condition of three words holds. -/
def evalThree (name : ByteText) (a b c : ByteText) : Shell Bool := do
  if isBinary b then binary name a b c
  else if a = ['!'] then return !(← evalTwo name b c)
  else if a = ['('] && c = [')'] then pure (!b.isEmpty)
  else if b = "-a".toList || b = "-o".toList then evalLong name [a, b, c]
  else refused name (quoted b ++ ": binary operator expected".toList)

/-- Whether a condition holds. The fewer words there are, the clearer it is what they mean. -/
def eval (name : ByteText) : List ByteText → Shell Bool
  | [] => pure false
  | [a] => pure !a.isEmpty
  | [a, b] => evalTwo name a b
  | [a, b, c] => evalThree name a b c
  | [a, b, c, d] => do
    if a = ['!'] then return !(← evalThree name b c d)
    else if a = ['('] && d = [')'] then evalTwo name b c
    else evalLong name [a, b, c, d]
  | words => evalLong name words

end Condition

/-- Tell whether a condition holds. -/
def test : Utility := fun name arguments => return if ← Condition.eval name arguments then 0 else 1

/-- Tell whether a condition holds that a bracket closes. -/
def bracket : Utility := fun name arguments => do
  if arguments.getLast? = some [']'] then test name arguments.dropLast
  else refuse name ("missing ".toList ++ quoted [']']) 2

/-! ### Parts of paths -/

/-- Write the last names of paths. -/
def basename : Utility := fun name arguments => do
  match Options.readLeading? "az" "s" [("suffix", 's'), ("multiple", 'a')] arguments with
  | .error complaint => misuse name complaint 1
  | .ok o =>
    match o.operands, o.has 'a' || o.has 's' with
    | [], _ => misuse name "missing operand".toList 1
    | paths, true => write (paths.map fun p => withoutEnding ((o.value? 's').getD []) (lastNameOf p))
    | [path], false => write [lastNameOf path]
    | [path, ending], false => write [withoutEnding ending (lastNameOf path)]
    | _, false => misuse name ("extra operand ".toList ++ quoted ((o.operands[2]?).getD [])) 1
where
  /-- Write names line by line. -/
  write (names : List ByteText) : Shell Nat := do
    Shell.say (unlines names)
    pure 0

/-- Write the directories of paths. -/
def dirname : Utility :=
  withOptions "z" "" [] 1 fun name o =>
    if o.operands.isEmpty then misuse name "missing operand".toList 1
    else do
      let ending := if o.has 'z' then ['\x00'] else ['\n']
      Shell.say (o.operands.flatMap fun path => directoryOf path ++ ending)
      pure 0

/-! ### Time -/

/-- Let the time pass that the arguments tell. -/
def sleep : Utility :=
  withOptions "" "" [] 1 fun name o => do
    if o.operands.isEmpty then misuse name "missing operand".toList 1
    else
      let code ← forEach o.operands fun a => do
        if (nanosOf? a).isSome then pure 0
        else refuse name ("invalid time interval ".toList ++ quoted a) 1
      if code = 0 then
        Shell.sleep ((o.operands.filterMap nanosOf?).foldl (fun a b => a + b) 0)
      else Shell.warn ("Try '".toList ++ name ++ " --help' for more information.".toList)
      pure code

/-! ### Surroundings -/

/-- Write the path of the working directory. -/
def pwd : Utility :=
  withOptions "LP" "" [("logical", 'L'), ("physical", 'P')] 1 fun name o => do
    if !o.operands.isEmpty then complain name "ignoring non-option arguments".toList
    Shell.sayLine (.ofString (Shell.placeText (← get).directory))
    pure 0

/-- Write the values of parameters that programs see. -/
def printenv : Utility :=
  withLeadingOptions "0" "" [("null", '0')] 2 fun _ o => do
    if o.operands.isEmpty then
      Shell.say (unlines (← get).settings)
      pure 0
    else
      forEach o.operands fun a => do
        match ← Shell.parameter? a with
        | some ⟨some value, true, _⟩ =>
          Shell.sayLine value
          pure 0
        | _ => pure 1

/-- A text brought to a width with zeros behind its sign. -/
def zeroFilled (width : Nat) (t : ByteText) : ByteText :=
  let zeros := List.replicate (width - t.length) '0'
  if t.head? = some '-' then '-' :: (zeros ++ t.drop 1) else zeros ++ t

/-- Write the time, of which only the seconds and what is below them are known. -/
def date : Utility := fun _ arguments => do
  let now := (← get).world.elapsed
  let seconds := 1700000000 + now / 1000000000
  match arguments with
  | [['+', '%', 's']] => Shell.sayLine (.ofNat seconds)
  | [['+', '%', 's', '%', 'N']] => Shell.sayLine (.ofNat (seconds * 1000000000 + now % 1000000000))
  | [['+', '%', 'N']] => Shell.sayLine (zeroFilled 9 (.ofNat (now % 1000000000)))
  | _ => Shell.sayLine "Tue Nov 14 22:13:20 UTC 2023".toList
  pure 0

/-- Do something with options, and refuse operands. -/
def withoutOperands (plain : String) (act : Options → Shell Nat) : Utility :=
  withOptions plain "" [] 1 fun name o =>
    match o.operands with
    | [] => act o
    | operand :: _ => misuse name ("extra operand ".toList ++ quoted operand) 1

/-- Write what kind of system there is. -/
def uname : Utility :=
  withoutOperands "asnrvmpio" fun o => do
    Shell.sayLine (if o.has 'm' then "x86_64".toList else if o.has 'o' then "GNU/Linux".toList else "Linux".toList)
    pure 0

/-- Write who runs a process. There is only one user. -/
def id : Utility :=
  withOptions "agGnruzZ" "" [] 1 fun name o => do
    let told : ByteText :=
      if !(o.has 'u' || o.has 'g' || o.has 'G') then "uid=0(root) gid=0(root) groups=0(root)".toList
      else if o.has 'n' then "root".toList
      else ['0']
    forEach (if o.operands.isEmpty then ["root".toList] else o.operands) fun who => do
      if who = "root".toList || who = ['0'] then
        Shell.sayLine told
        pure 0
      else refuse name (quoted who ++ ": no such user".toList) 1

/-- Write the name of who runs a process. -/
def whoami : Utility :=
  withoutOperands "" fun _ => do
    Shell.sayLine "root".toList
    pure 0

/-- Make sure that files are kept, as they are anyway. -/
def sync : Utility :=
  withOptions "df" "" [("data", 'd'), ("file-system", 'f')] 1 fun name o =>
    forEach o.operands fun path => do
      match (← Shell.files).find (← Shell.path path) with
      | .ok _ => pure 0
      | .error fault => refuse name ("error opening ".toList ++ quotedPath path ++ ": ".toList ++ faultText fault) 1

end Utility

end Script

end LinearProgram
