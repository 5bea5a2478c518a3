import WidgetPipeline.Shell.Source
import WidgetPipeline.Shell.Syntax
import WidgetPipeline.Shell.Token

/-!
What the reader of commands knows between two characters. A token can be put back; documents that are
announced on a line are read where the line ends.
-/

namespace WidgetPipeline.Shell

structure SyntaxError where
  message : String
deriving DecidableEq, Repr

structure Expectation where
  skipLines : Bool := false
  keywords : Bool := false
  aliases : Bool := false
  /-- The word is the mark of a document, in which there are no expansions. -/
  mark : Bool := false
deriving DecidableEq, Repr

namespace Expectation

def command : Expectation := { keywords := true, aliases := true }

def laterCommand : Expectation := { skipLines := true, keywords := true, aliases := true }

def laterKeyword : Expectation := { skipLines := true, keywords := true }

end Expectation

structure PendingDocument where
  index : Nat
  mark : String
  stripTabs : Bool
  /-- There are expansions in the text. -/
  expanded : Bool
deriving Repr

structure Document where
  text : Word := []
  expanded : Bool := false

/-- The redirection that an operator starts. Its word follows. -/
inductive Announcement where
  | file (descriptor : Nat) (mode : OpenMode)
  | copy (descriptor : Nat)
  | document (descriptor : Nat) (stripTabs : Bool)
deriving Repr

structure ReadState where
  source : Source
  aliases : List (String × String) := []
  expectation : Expectation := {}
  last : Token := .newline
  again : Bool := false
  /-- The last word, and whether there were quotes in it. -/
  word : Word := []
  quoted : Bool := false
  announcement : Announcement := .copy 0
  pending : List PendingDocument := []
  documents : List (Nat × Document) := []
  nextDocument : Nat := 0

/-- A computation that reads. What was read of a wrong text stays read. -/
abbrev Reader := ExceptT SyntaxError (StateM ReadState)

namespace Reader

/-- The bound on repetitions and on the depth of commands. -/
def bound : Nat := 1000000

def depth : Nat := 20000

def fail {α : Type} (message : String) : Reader α := throw { message }

def unexpected {α : Type} (expected : Option Token := none) : Reader α := do
  let name := (← get).last.name
  match expected with
  | some token => fail s!"{name} unexpected (expecting {token.name})"
  | none => fail s!"{name} unexpected"

def repeat_ {σ α : Type} (step : σ → Reader (σ ⊕ α)) : Nat → σ → Reader α
  | 0, _ => fail "out of memory"
  | fuel + 1, s => do
    match ← step s with
    | .inl s => repeat_ step fuel s
    | .inr a => return a

def iterate {σ α : Type} (s : σ) (step : σ → Reader (σ ⊕ α)) : Reader α := repeat_ step bound s

def nextChar : Reader (Option Char) :=
  modifyGet fun state =>
    let (c, source) := state.source.next
    (c, { state with source })

/-- Puts a character back. There is nothing to put back at the end. -/
def unread (c : Option Char) : Reader Unit :=
  modify fun state => { state with source := state.source.unread c.toList }

def unreadAll (cs : List Char) : Reader Unit :=
  modify fun state => { state with source := state.source.unread cs }

def countLine : Reader Unit :=
  modify fun state => { state with source := state.source.nextLine }

/-- The next character, where lines that end in a backslash are joined. -/
def nextJoined : Reader (Option Char) :=
  iterate () fun () => do
    match ← nextChar with
    | some '\\' =>
      match ← nextChar with
      | some '\n' => countLine; return .inl ()
      | c => unread c; return .inr (some '\\')
    | c => return .inr c

/-- Sets what counts at the next token. -/
def expect (expectation : Expectation) : Reader Unit :=
  modify fun state => { state with expectation }

def putBack : Reader Unit := modify fun state => { state with again := true }

def took (token : Token) : Reader Token := do
  modify fun state => { state with last := token }
  return token

def line : Reader Nat := return (← get).source.line

end Reader

end WidgetPipeline.Shell
