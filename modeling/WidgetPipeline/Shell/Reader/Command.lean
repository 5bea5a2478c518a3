import WidgetPipeline.Shell.Reader.Word

/-!
Commands. A text is read line by line, so that a line can be run before the next one is read; only a
command that goes on takes more lines. Readers of commands get the reader for the commands inside them,
which is tied together by a bound on the depth.
-/

namespace WidgetPipeline.Shell

inductive Inner where
  | body
  | anyBody
  | command
deriving DecidableEq, Repr

namespace Reader

/-- The readers that words need for the commands inside them. -/
structure WordReaders where
  parenthesized : Reader Command
  backquotes : Reader Command

namespace WordReaders

def scan (readers : WordReaders) : Reader Token := do
  if (← get).again then
    modify fun state => { state with again := false }
    return (← get).last
  iterate () fun () => do
    let either (c : Char) (double single : Token) : Reader (Unit ⊕ Token) := do
      match ← nextJoined with
      | some d =>
        if d = c then return .inr (← took double)
        unread (some d)
      | none => pure ()
      return .inr (← took single)
    match ← nextJoined with
    | none => return .inr (← took .endOfInput)
    | some ' ' | some '\t' => return .inl ()
    | some '#' =>
      iterate () fun () => do
        match ← nextChar with
        | some '\n' => unread (some '\n'); return .inr ()
        | none => return .inr ()
        | some _ => return .inl ()
      return .inl ()
    | some '\n' => countLine; return .inr (← took .newline)
    | some '&' => either '&' .both .background
    | some '|' => either '|' .either .pipe
    | some ';' => either ';' .endCase .semicolon
    | some '(' => return .inr (← took .openParenthesis)
    | some ')' => return .inr (← took .closeParenthesis)
    | c =>
      let mark := (← get).expectation.mark
      return .inr (← readWord readers.parenthesized readers.backquotes mark c)

def documents (readers : WordReaders) : Reader Unit :=
  readDocuments readers.parenthesized readers.backquotes

/-- Reads a token: a keyword or the text of an alias where these count. -/
def token (readers : WordReaders) : Reader Token := do
  iterate (← get).expectation fun wanted => do
    let first ← readers.scan
    let token ←
      if wanted.skipLines then
        iterate first fun token => do
          if token ≠ .newline then return .inr token
          readers.documents
          return .inl (← readers.scan)
      else pure first
    let state ← get
    let wanted := { wanted with
      keywords := wanted.keywords || state.expectation.keywords
      aliases := wanted.aliases || state.expectation.aliases || state.source.aliasFollows }
    set { state with expectation := {}, source := { state.source with aliasFollows := false } }
    match token, if state.quoted then none else plainText? state.word with
    | .word, some text =>
      match if wanted.keywords then Keyword.ofText? text else none with
      | some keyword => return .inr (← took (.reserved keyword))
      | none =>
        let counts := wanted.aliases && !state.source.uses text && !text.toList.any Quoting.isMark
        match if counts then state.aliases.lookup text else none with
        | some value =>
          modify fun state => { state with source := state.source.push text value }
          return .inl wanted
        | none => return .inr token
    | token, _ => return .inr token

def need (readers : WordReaders) (token : Token) : Reader Unit := do
  if (← readers.token) ≠ token then unexpected (some token)

def target (readers : WordReaders) : Reader Redirection := do
  let announcement := (← get).announcement
  if announcement matches .document .. then expect { mark := true }
  if (← readers.token) ≠ .word then unexpected
  let state ← get
  match announcement with
  | .file descriptor mode => return .file descriptor mode state.word
  | .copy descriptor => return .copy descriptor state.word
  | .document descriptor stripTabs =>
    let index := state.nextDocument
    let document : PendingDocument :=
      { index, mark := unquoted state.word, stripTabs, expanded := !state.quoted }
    set { state with pending := state.pending ++ [document], nextDocument := index + 1 }
    return .document descriptor index

def targets (readers : WordReaders) : Reader (List Redirection) := do
  expect .command
  let redirections ← iterate ([] : List Redirection) fun redirections => do
    if (← readers.token) = .redirection then return .inl ((← readers.target) :: redirections)
    else return .inr redirections.reverse
  putBack
  return redirections

end WordReaders

/-- What was read of a simple command. The parts stand in reverse. -/
structure SimpleParts where
  assignments : List Word := []
  words : List Word := []
  redirections : List Redirection := []

section

variable (inner : Inner → Reader Command)

/-- The readers for words. Documents that were announced in an expansion are empty unless their lines
were read there. -/
def wordReaders : WordReaders where
  parenthesized := do
    let command ← inner .anyBody
    modify fun state => { state with again := false }
    if (← get).last ≠ .closeParenthesis then unexpected (some .closeParenthesis)
    return command
  backquotes := inner .anyBody

def functionBody (word : Word) : Reader Command := do
  let readers := wordReaders inner
  if (← readers.token) ≠ .closeParenthesis then unexpected (some .closeParenthesis)
  match plainText? word with
  | some name =>
    if !isName name || specialCommands.contains name then fail "Bad function name"
    expect .laterCommand
    let line ← Reader.line
    return .define name line (← inner .command)
  | none => fail "Bad function name"

def simpleCommand : Reader Command := do
  let readers := wordReaders inner
  let line ← Reader.line
  let finish (parts : SimpleParts) : Reader (SimpleParts ⊕ Command) := do
    putBack
    return .inr (.simple line parts.assignments.reverse parts.words.reverse
      parts.redirections.reverse)
  iterate ({} : SimpleParts) fun parts => do
    let first := parts.words.isEmpty
    expect { aliases := first }
    match ← readers.token with
    | .word =>
      let word := (← get).word
      if first && isAssignment word then
        return .inl { parts with assignments := word :: parts.assignments }
      else return .inl { parts with words := word :: parts.words }
    | .redirection =>
      return .inl { parts with redirections := (← readers.target) :: parts.redirections }
    | .openParenthesis =>
      match parts.words, parts.assignments, parts.redirections with
      | [word], [], [] => return .inr (← functionBody inner word)
      | _, _, _ => finish parts
    | _ => finish parts

def conditional : Reader Command := do
  let readers := wordReaders inner
  let test ← inner .body
  readers.need (.reserved .then)
  let yes ← inner .body
  let arms ← iterate [(test, yes)] fun arms => do
    if (← readers.token) ≠ .reserved .elif then return .inr arms
    let test ← inner .body
    readers.need (.reserved .then)
    return .inl ((test, ← inner .body) :: arms)
  let last ← if (← get).last = .reserved .else then inner .body else do putBack; pure .nothing
  return arms.foldl (fun rest arm => .branch arm.1 arm.2 rest) last

def eachLoop (line : Nat) : Reader Command := do
  let readers := wordReaders inner
  let token ← readers.token
  let state ← get
  match if token = .word && !state.quoted then plainText? state.word else none with
  | none => fail "Bad for loop variable"
  | some name =>
    if !isName name then fail "Bad for loop variable"
    expect .laterCommand
    let words ←
      if (← readers.token) = .reserved .in then do
        let words ← iterate ([] : List Word) fun words => do
          if (← readers.token) = .word then return .inl ((← get).word :: words)
          else return .inr words.reverse
        let last := (← get).last
        if last ≠ .newline && last ≠ .semicolon then unexpected
        pure words
      else do
        if (← get).last ≠ .semicolon then putBack
        pure [[.allParameters]]
    expect .laterCommand
    readers.need (.reserved .do)
    return .each line name words (← inner .body)

def casePatterns : Reader (List Word) := do
  let readers := wordReaders inner
  if (← get).last = .openParenthesis then discard readers.token
  iterate ([] : List Word) fun patterns => do
    let patterns := (← get).word :: patterns
    if (← readers.token) ≠ .pipe then return .inr patterns.reverse
    discard readers.token
    return .inl patterns

def choiceCases : Reader (List Case) := do
  let readers := wordReaders inner
  iterate ([] : List Case) fun cases => do
    expect .laterKeyword
    if (← readers.token) = .reserved .esac then return .inr cases.reverse
    let patterns ← casePatterns inner
    if (← get).last ≠ .closeParenthesis then unexpected (some .closeParenthesis)
    let cases := Case.of patterns (← inner .anyBody) :: cases
    expect .laterKeyword
    match ← readers.token with
    | .reserved .esac => return .inr cases.reverse
    | .endCase => return .inl cases
    | _ => unexpected (some .endCase)

def choice (line : Nat) : Reader Command := do
  let readers := wordReaders inner
  readers.need .word
  let word := (← get).word
  expect .laterCommand
  readers.need (.reserved .in)
  return .choice line word (← choiceCases inner)

/-- A command with its redirections. A process of its own has only one list of them, also where it stands
alone between braces: the outer list counts. -/
def redirectedBy (line : Nat) (command : Command) (redirections : List Redirection) : Command :=
  match command, redirections with
  | command, [] => command
  | .subshell line body _, redirections => .subshell line body redirections
  | command, redirections => .redirected line command redirections

def command : Reader Command := do
  let readers := wordReaders inner
  let line ← Reader.line
  let closed (command : Command) (token : Token) : Reader Command := do
    readers.need token
    return redirectedBy line command (← readers.targets)
  match ← readers.token with
  | .reserved .if => closed (← conditional inner) (.reserved .fi)
  | .reserved .while | .reserved .until =>
    let whileFailing := (← get).last = .reserved .until
    let test ← inner .body
    readers.need (.reserved .do)
    closed (.loop whileFailing test (← inner .body)) (.reserved .done)
  | .reserved .for => closed (← eachLoop inner line) (.reserved .done)
  | .reserved .case =>
    let command ← choice inner line
    return redirectedBy line command (← readers.targets)
  | .openParenthesis => closed (.subshell line (← inner .body) []) .closeParenthesis
  | .reserved .begin => closed (← inner .body) (.reserved .close)
  | .word | .redirection =>
    putBack
    simpleCommand inner
  | _ => unexpected

def pipeline : Reader Command := do
  let readers := wordReaders inner
  let negated := (← readers.token) = .reserved .bang
  if negated then expect .command else putBack
  let first ← command inner
  let commands ← iterate [first] fun commands => do
    if (← readers.token) ≠ .pipe then return .inr commands.reverse
    expect .laterCommand
    return .inl ((← command inner) :: commands)
  putBack
  let whole := if commands.length = 1 then first else .pipeline commands false
  return if negated then .negated whole else whole

def chain : Reader Command := do
  let readers := wordReaders inner
  iterate (← pipeline inner) fun first => do
    match ← readers.token with
    | .both =>
      expect .laterCommand
      return .inl (.both first (← pipeline inner))
    | .either =>
      expect .laterCommand
      return .inl (.either first (← pipeline inner))
    | _ =>
      putBack
      return .inr first

/-- A command that is not waited for. -/
def inBackground : Command → Command
  | .pipeline commands _ => .pipeline commands true
  | .redirected line body redirections => .background line body redirections
  | command => .background 0 command []

/-- Reads a list of commands: one line of them, or commands up to a token that ends them. There is
none if the input is at its end. -/
def commandList (oneLine mayBeEmpty : Bool) : Reader (Option Command) := do
  let readers := wordReaders inner
  let atEnd (commands : Option Command) : Reader (Option Command) := do
    readers.documents
    modify fun state => { state with again := true, last := .endOfInput }
    return commands
  iterate (none : Option Command) fun commands => do
    expect (if oneLine then .command else .laterCommand)
    match ← readers.token with
    | .newline =>
      readers.documents
      return .inr (some (commands.getD .nothing))
    | .endOfInput => return .inr (← atEnd commands)
    | token =>
      putBack
      if !oneLine && (mayBeEmpty || commands.isSome) && token.endsList then return .inr commands
      let command ← chain inner
      let token ← readers.token
      let command := if token = .background then inBackground command else command
      let commands := some ((commands.map (Command.sequence · command)).getD command)
      match token with
      | .endOfInput => return .inr (← atEnd commands)
      | .newline => putBack; return .inl commands
      | .background | .semicolon => return .inl commands
      | _ =>
        if oneLine then unexpected
        putBack
        return .inr commands

end

def inside : Nat → Inner → Reader Command
  | 0, _ => fail "out of memory"
  | depth + 1, .command => command (inside depth)
  | depth + 1, kind => return (← commandList (inside depth) false (kind = .anyBody)).getD .nothing

/-- Reads the commands of a line. There are none at the end of the input. -/
def lineCommands : Reader (Option Command) := do
  modify fun state =>
    { state with
      again := false, expectation := {}, pending := [] }
  commandList (inside depth) true false

def expandableText : Reader Word :=
  let readers := wordReaders (inside depth)
  readWhole readers.parenthesized readers.backquotes

end Reader

end WidgetPipeline.Shell
