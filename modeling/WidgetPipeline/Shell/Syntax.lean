/-!
Commands of the shell as trees. A command is built of words, and a word of parts, among which there
may be whole commands again. A line of the text from which a command was read is kept where messages
name it.

The shell serves runs whose converter is a script, as `sh -c` with a text or `sh` with a file: such
a script can look at the variables and the input that a converter is given, write to both outputs
and end with any status or by a signal.
-/

namespace WidgetPipeline.Shell

/-- What is done with the value of a parameter. `orEmpty` tells that an empty value counts as none. -/
inductive ParameterUse where
  | value
  | length
  | orElse (orEmpty : Bool)
  | orAssign (orEmpty : Bool)
  | orFail (orEmpty : Bool)
  | ifSet (orEmpty : Bool)
  /-- What matches a pattern is cut off at one of the ends. -/
  | trim (front longest : Bool)
  /-- The value and the word follow one another, and take the place of all that stands behind. -/
  | valueAndWord
  | wrong
deriving DecidableEq, Repr

inductive OpenMode where
  | read
  | write
  /-- What is there may be replaced whatever the settings say. -/
  | replace
  | append
  | readWrite
deriving DecidableEq, Repr

mutual

inductive Part where
  | plain (c : Char)
  | escaped (c : Char)
  | quoteMark
  | parameter (name : String) (use : ParameterUse) (word : List Part)
  /-- All positional parameters between quotes of their own, each of which is a field. -/
  | allParameters
  | output (command : Command)
  | arithmetic (expression : List Part)

/-- A change of a descriptor for the time of a command. -/
inductive Redirection where
  | file (descriptor : Nat) (mode : OpenMode) (name : List Part)
  /-- The descriptor becomes the one that the word names, or is closed. -/
  | copy (descriptor : Nat) (source : List Part)
  /-- The descriptor reads a text that stands behind the command, given by its number. -/
  | document (descriptor : Nat) (index : Nat)

inductive Command where
  | nothing
  | simple (line : Nat) (assignments words : List (List Part)) (redirections : List Redirection)
  | redirected (line : Nat) (body : Command) (redirections : List Redirection)
  | negated (body : Command)
  | both (first second : Command)
  | either (first second : Command)
  | sequence (first second : Command)
  | pipeline (commands : List Command) (background : Bool)
  | background (line : Nat) (body : Command) (redirections : List Redirection)
  | subshell (line : Nat) (body : Command) (redirections : List Redirection)
  | branch (test yes no : Command)
  /-- A body that is repeated as long as a test succeeds, or as it fails. -/
  | loop (whileFailing : Bool) (test body : Command)
  | each (line : Nat) (name : String) (words : List (List Part)) (body : Command)
  | choice (line : Nat) (word : List Part) (cases : List Case)
  | define (name : String) (line : Nat) (body : Command)

inductive Case where
  | of (patterns : List (List Part)) (body : Command)

end

instance : Inhabited Command := ⟨.nothing⟩

abbrev Word := List Part

def Command.isNothing : Command → Bool
  | .nothing => true
  | _ => false

def isNameStart (c : Char) : Bool := c.isAlpha || c = '_'

def isNameChar (c : Char) : Bool := c.isAlphanum || c = '_'

def isName (text : String) : Bool :=
  match text.toList with
  | c :: cs => isNameStart c && cs.all isNameChar
  | [] => false

def plainText? (word : Word) : Option String :=
  (word.mapM fun (part : Part) => if let .plain c := part then some c else none).map String.ofList

/-- A word in which the parameters that stand alone between quotes are known as such. `quoted` tells
whether quotes are open. -/
def gatherParameters (quoted : Bool) : Word → Word
  | [] => []
  | .quoteMark :: .parameter name .value [] :: .quoteMark :: rest =>
    if name = "@" && !quoted then .allParameters :: gatherParameters false rest
    else
      .quoteMark :: .parameter name .value [] :: .quoteMark :: gatherParameters quoted rest
  | .quoteMark :: rest => .quoteMark :: gatherParameters (!quoted) rest
  | part :: rest => part :: gatherParameters quoted rest

def plainStart : Word → List Char
  | .plain c :: rest => c :: plainStart rest
  | _ => []

/-- Whether a text starts with a name and an equals sign. -/
def startsWithAssignment : List Char → Bool
  | c :: cs => isNameStart c && (cs.dropWhile isNameChar).head? = some '='
  | [] => false

def isAssignment (word : Word) : Bool := startsWithAssignment (plainStart word)

/-- The text of a word without expansions, without its quotes. -/
def unquoted (word : Word) : String :=
  String.ofList (word.filterMap fun (part : Part) =>
    match part with
    | .plain c | .escaped c => some c
    | _ => none)

/-- The commands of the shell that cannot be replaced by functions. -/
def specialCommands : List String :=
  [".", ":", "break", "continue", "eval", "exec", "exit", "export", "local", "readonly", "return",
    "set", "shift", "trap", "unset"]

end WidgetPipeline.Shell
