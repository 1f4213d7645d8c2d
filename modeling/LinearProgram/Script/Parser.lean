import LinearProgram.Script.Token

/-!
Reading the commands of a script.

Each function reads one form of command. Lists of commands stand inside commands, and commands inside words; both
are read by a computation that every function is given, and `readList` ties the knot: each level of it may be
used once for every character of the script, which is more often than commands can be nested.

* `readListWith`, `readCommand`, `readSimple`: lists, commands and simple commands.
* `readList`: commands with all that is inside them.
* `Reader.next`: the commands of the next line of a script.
-/

namespace LinearProgram

namespace Script

/-! ### Redirections and words -/

/-- A name and a value, if a word sets a parameter. -/
def settingOf? : Word → Option (ByteText × Word)
  | .text false t :: pieces =>
    let name := t.takeWhile continuesName
    match t.drop name.length with
    | '=' :: value =>
      if isName name then some (name, withHomes (if value.isEmpty then pieces else .text false value :: pieces))
      else none
    | _ => none
  | _ => none

/-- Read what a redirection leads to. -/
def readTarget (fuel : Nat) (inner : Inner) (stream : Nat) : Arrow → Read Redirection
  | .here withoutTabs => do
    match ← readMark fuel with
    | none => Read.unexpected (← readAny fuel inner)
    | some (verbatim, mark) =>
      let label := (← get).nextLabel
      modify fun r =>
        { r with nextLabel := label + 1, awaited := r.awaited ++ [⟨label, mark, verbatim, withoutTabs⟩] }
      return .here stream label
  | .copy => do
    match ← readAny fuel inner with
    | .word _ word => return .copy stream word
    | t => Read.unexpected t
  | .file opening => do
    match ← readAny fuel inner with
    | .word _ word => return .file stream opening (withHome word)
    | t => Read.unexpected t

/-- Read redirections as long as there are some. -/
def readRedirections (inner : Inner) : Nat → Read (List Redirection)
  | 0 => pure []
  | fuel + 1 => do
    match ← readKeyword fuel inner with
    | .redirection stream arrow =>
      let first ← readTarget fuel inner stream arrow
      return first :: (← readRedirections inner fuel)
    | t =>
      Read.push t
      pure []

/-! ### Simple commands -/

/-- The commands that no function can be named like. -/
def specialNames : List String :=
  [".", ":", "break", "continue", "eval", "exec", "exit", "export", "local", "readonly", "return", "set", "shift",
   "times", "trap", "unset"]

/-- What has been read of a simple command. -/
structure Parts where
  settings : List (ByteText × Word)
  words : List Word
  redirections : List Redirection

/-- Read the rest of the definition of a function, from behind its opening parenthesis. -/
def readDefinition (fuel : Nat) (inner : Inner) (name : Word) : Read Command := do
  let t ← readAny fuel inner
  if !t.isOperator ")" then Read.expecting t (.operator ")")
  match bare? name with
  | some name =>
    if !isName name || specialNames.contains (String.ofList name) then Read.fault "Bad function name"
    let line := (← get).line
    Read.push (← readBeyond inner fuel)
    return .define line name ((← inner .single).getD nothing)
  | none => Read.fault "Bad function name"

/-- Read a simple command on a line, behind some parts of it, which are given in reverse order. -/
def readSimple (inner : Inner) (line : Nat) : Nat → Parts → Read Command
  | 0, _ => Read.unterminated
  | fuel + 1, parts => do
    let t ← if (← get).pushed.isSome || !parts.words.isEmpty then readBehind fuel inner
      else replaceAlias inner id fuel (← readAny fuel inner)
    match t with
    | .word _ word =>
      match if parts.words.isEmpty then settingOf? word else none with
      | some setting => readSimple inner line fuel { parts with settings := setting :: parts.settings }
      | none => readSimple inner line fuel { parts with words := withHome word :: parts.words }
    | .redirection stream arrow =>
      let redirection ← readTarget fuel inner stream arrow
      readSimple inner line fuel { parts with redirections := redirection :: parts.redirections }
    | t =>
      match t.isOperator "(", parts with
      | true, ⟨[], [name], []⟩ => readDefinition fuel inner name
      | _, _ =>
        Read.push t
        return .simple line parts.settings.reverse parts.words.reverse parts.redirections.reverse

/-! ### Commands with commands inside -/

/-- Read commands inside another one. -/
def readBody (inner : Inner) : Read Command := do return (← inner .body).getD nothing

/-- Pass over a token that must come next. -/
def expect (fuel : Nat) (inner : Inner) (wanted : Token) : Read Unit := do
  let t ← readKeyword fuel inner
  match t, wanted with
  | .keyword t', .keyword w => if t' ≠ w then Read.expecting t wanted
  | .operator t', .operator w => if t' ≠ w then Read.expecting t wanted
  | _, _ => Read.expecting t wanted

/-- Read the rest of a choice behind its first word. -/
def readChoice (inner : Inner) : Nat → Read Command
  | 0 => Read.unterminated
  | fuel + 1 => do
    let condition ← readBody inner
    expect fuel inner (.keyword "then")
    let body ← readBody inner
    let t ← readKeyword fuel inner
    if t.isKeyword "elif" then return .choice condition body (some (← readChoice inner fuel))
    else if t.isKeyword "else" then
      let otherwise ← readBody inner
      expect fuel inner (.keyword "fi")
      return .choice condition body (some otherwise)
    else
      Read.push t
      expect fuel inner (.keyword "fi")
      return .choice condition body none

/-- Read the rest of a conditional loop behind its first word. -/
def readLoop (fuel : Nat) (inner : Inner) (untilSuccess : Bool) : Read Command := do
  let condition ← readBody inner
  expect fuel inner (.keyword "do")
  let body ← readBody inner
  expect fuel inner (.keyword "done")
  return .loop untilSuccess condition body

/-- Read words up to the end of a line or a semicolon. -/
def readWords (inner : Inner) : Nat → Read (List Word)
  | 0 => pure []
  | fuel + 1 => do
    match ← readAny fuel inner with
    | .word _ word => return withHome word :: (← readWords inner fuel)
    | .newline => pure []
    | t => if t.isOperator ";" then pure [] else Read.unexpected t

/-- Read the rest of a loop over words behind its first word. Without words of its own it is over the arguments. -/
def readEach (fuel : Nat) (inner : Inner) (line : Nat) : Read Command := do
  let name ← match ← readAny fuel inner with
    | .word _ word =>
      match bare? word with
      | some name => if isName name then pure name else Read.fault "Bad for loop variable"
      | none => Read.fault "Bad for loop variable"
    | _ => Read.fault "Bad for loop variable"
  let t ← readBeyond inner fuel
  let words ←
    if t.isKeyword "in" then readWords inner fuel
    else
      if !t.isOperator ";" then Read.push t
      pure [[.parameter true ['@'] .plain]]
  Read.push (← readBeyond inner fuel)
  expect fuel inner (.keyword "do")
  let body ← readBody inner
  expect fuel inner (.keyword "done")
  return .each line name words body

/-- Read the patterns of a branch behind its first token, up to the closing parenthesis. Whatever token there is
takes the place of a pattern. -/
def readPatterns (inner : Inner) : Nat → Token → Read (List Word)
  | 0, _ => Read.unterminated
  | fuel + 1, first => do
    let pattern : Word := match first with
      | .word _ word => withHome word
      | .keyword t => [.text false t.toList]
      | _ => []
    let t ← readAny fuel inner
    if t.isOperator "|" then return pattern :: (← readPatterns inner fuel (← readAny fuel inner))
    else if t.isOperator ")" then pure [pattern]
    else Read.expecting t (.operator ")")

/-- Read the branches of a selection. -/
def readBranches (inner : Inner) : Nat → Read (List (List Word × Option Command))
  | 0 => Read.unterminated
  | fuel + 1 => do
    let t ← readBeyond inner fuel
    if t.isKeyword "esac" then pure []
    else
      let first ← if t.isOperator "(" then readAny fuel inner else pure t
      let patterns ← readPatterns inner fuel first
      let body ← inner .substitution
      let t ← readBeyond inner fuel
      if t.isKeyword "esac" then return [(patterns, body)]
      else if t.isOperator ";;" then return (patterns, body) :: (← readBranches inner fuel)
      else Read.expecting t (.operator ";;")

/-- Read the rest of a selection behind its first word. -/
def readSelection (fuel : Nat) (inner : Inner) (line : Nat) : Read Command := do
  match ← readAny fuel inner with
  | .word _ subject =>
    let t ← readBeyond inner fuel
    if !t.isKeyword "in" then Read.expecting t (.keyword "in")
    return .select line (withHome subject) (← readBranches inner fuel)
  | t => Read.expecting t (.word false [])

/-- Read a command with commands inside, behind its first token, if that begins one. -/
def readCompound? (fuel : Nat) (inner : Inner) (line : Nat) (first : Token) : Read (Option Command) := do
  match first with
  | .keyword "if" => some <$> readChoice inner fuel
  | .keyword "while" => some <$> readLoop fuel inner false
  | .keyword "until" => some <$> readLoop fuel inner true
  | .keyword "for" => some <$> readEach fuel inner line
  | .keyword "case" => some <$> readSelection fuel inner line
  | .operator "(" =>
    let body ← readBody inner
    expect fuel inner (.operator ")")
    return some (.subshell line body [])
  | .keyword "\x7b" =>
    let body ← readBody inner
    expect fuel inner (.keyword "\x7d")
    return some body
  | _ => pure none

/-- A command with the redirections behind it. -/
def withRedirections (line : Nat) (command : Command) (redirections : List Redirection) : Command :=
  match command, redirections with
  | command, [] => command
  | .subshell line inner _, redirections => .subshell line inner redirections
  | command, redirections => .redirected line command redirections

/-- Read a command behind its first token. -/
def readCommand (fuel : Nat) (inner : Inner) (first : Token) : Read Command := do
  let line := (← get).line
  match first with
  | .word _ _ =>
    Read.push first
    readSimple inner line fuel ⟨[], [], []⟩
  | .redirection _ _ =>
    Read.push first
    readSimple inner line fuel ⟨[], [], []⟩
  | t =>
    match ← readCompound? fuel inner line t with
    | some command => return withRedirections line command (← readRedirections inner fuel)
    | none => Read.unexpected t

/-! ### Pipelines and lists -/

/-- Read the rest of a pipeline behind its first command. -/
def readPipeline (inner : Inner) : Nat → List Command → Read (List Command)
  | 0, parts => pure parts
  | fuel + 1, parts => do
    let t ← readAny fuel inner
    if t.isOperator "|" then
      let next ← readCommand fuel inner (← readBeyond inner fuel)
      readPipeline inner fuel (parts ++ [next])
    else
      Read.push t
      pure parts

/-- Read commands joined by pipes, perhaps behind an exclamation mark. -/
def readPiped (fuel : Nat) (inner : Inner) (first : Token) : Read Command := do
  let negated := first.isKeyword "!"
  let first ← if negated then readKeyword fuel inner else pure first
  let parts ← readPipeline inner fuel [← readCommand fuel inner first]
  let command := match parts with
    | [command] => command
    | parts => .pipeline parts
  return if negated then .negated command else command

/-- Read what is joined to a command by `&&` and `||`. -/
def readJoined (inner : Inner) : Nat → Command → Read Command
  | 0, command => pure command
  | fuel + 1, command => do
    let t ← readAny fuel inner
    if t.isOperator "&&" then
      readJoined inner fuel (.both command (← readPiped fuel inner (← readBeyond inner fuel)))
    else if t.isOperator "||" then
      readJoined inner fuel (.either command (← readPiped fuel inner (← readBeyond inner fuel)))
    else
      Read.push t
      pure command

/-- A command behind others. -/
def andThen : Option Command → Command → Option Command
  | none, command => some command
  | some before, command => some (.sequence before command)

/-- Read the commands of a list behind some others. A word that ends the list is looked for if `mayEnd` is set. -/
def readListWith (inner : Inner) (extent : Extent) : Nat → Bool → Option Command → Read (Option Command)
  | 0, _, before => pure before
  | fuel + 1, mayEnd, before => do
    let t ← if extent = .line then readKeyword fuel inner else readBeyond inner fuel
    match t with
    | .newline => pure before
    | .ending =>
      Read.push .ending
      pure before
    | t =>
      if mayEnd && t.closes then
        Read.push t
        pure before
      else
        let line := (← get).line
        let command ← readJoined inner fuel (← readPiped fuel inner t)
        let t ← readAny fuel inner
        let list := andThen before (if t.isOperator "&" then .background line command else command)
        if t.isOperator "&" || t.isOperator ";" then readListWith inner extent fuel (extent ≠ .line) list
        else
          match t with
          | .ending =>
            Read.push t
            pure list
          | .newline =>
            Read.push t
            readListWith inner extent fuel (extent ≠ .line) list
          | t =>
            if extent = .line then Read.unexpected t
            else
              Read.push t
              pure list

/-- Read commands. The number bounds how deeply they are nested. -/
def readList : Nat → Inner
  | 0, _ => Read.unterminated
  | fuel + 1, .single => do
    return some (← readCommand fuel (readList fuel) (← readBeyond (readList fuel) fuel))
  | fuel + 1, extent => readListWith (readList fuel) extent fuel (extent = .substitution) none

/-- A text with substitutions as a word. A text that is not in order stands for itself. -/
def wordOfText (text : ByteText) : Word :=
  let fuel := 2 * text.length + 10
  match (readPieces (readList fuel) fuel true .text).run (.ofText text 0) with
  | .ok (word, _) => word
  | .error _ => [.text true text]

/-! ### Scripts -/

/-- What the next line of a script holds. -/
inductive NextLine where
  /-- Nothing: the script has ended. -/
  | ended
  /-- No command. -/
  | blank
  | command (c : Command)

/-- How many more characters a line may come to where words stand for other texts. -/
def aliasFuel : Nat := 1000000

/-- The commands of the next line of a script, which may go on over several lines. -/
def Reader.next (r : Reader) : Except SyntaxFault (NextLine × Reader) := do
  let fuel := 2 * r.rest.length + 10 + if r.aliases.isEmpty then 0 else aliasFuel
  let (command?, r) ← (readList fuel .line).run { r with replaced := [], opened := [] }
  match command?, r.pushed with
  | some command, _ => .ok (.command command, r)
  | none, some .ending => .ok (.ended, r)
  | none, _ => .ok (.blank, r)

end Script

end LinearProgram
