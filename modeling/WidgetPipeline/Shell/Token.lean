/-!
The tokens of the shell's language: operators, words and reserved words. Messages about wrong commands
name them.
-/

namespace WidgetPipeline.Shell

/-- A word with a meaning of its own where a command can start. -/
inductive Keyword where
  | bang | case | do | done | elif | else | esac | fi | for | if | in | then | until | while | begin
  | close
deriving DecidableEq, Repr

namespace Keyword

def all : List (String × Keyword) :=
  [("!", .bang), ("case", .case), ("do", .do), ("done", .done), ("elif", .elif), ("else", .else),
    ("esac", .esac), ("fi", .fi), ("for", .for), ("if", .if), ("in", .in), ("then", .then),
    ("until", .until), ("while", .while), ("\x7b", .begin), ("\x7d", .close)]

def ofText? (text : String) : Option Keyword := all.lookup text

def text (keyword : Keyword) : String := ((all.find? (·.2 = keyword)).map (·.1)).getD "!"

/-- Whether a list of commands ends in front of the keyword. -/
def endsList : Keyword → Bool
  | .do | .done | .elif | .else | .esac | .fi | .then | .close => true
  | _ => false

end Keyword

/-- A token. What a word or a redirection holds is kept elsewhere. -/
inductive Token where
  | endOfInput
  | newline
  | semicolon
  | background
  | both
  | pipe
  | either
  | openParenthesis
  | closeParenthesis
  | endCase
  | word
  | redirection
  | reserved (keyword : Keyword)
deriving DecidableEq, Repr

namespace Token

def name : Token → String
  | .endOfInput => "end of file"
  | .newline => "newline"
  | .semicolon => "\";\""
  | .background => "\"&\""
  | .both => "\"&&\""
  | .pipe => "\"|\""
  | .either => "\"||\""
  | .openParenthesis => "\"(\""
  | .closeParenthesis => "\")\""
  | .endCase => "\";;\""
  | .word => "word"
  | .redirection => "redirection"
  | .reserved keyword => "\"" ++ keyword.text ++ "\""

def endsList : Token → Bool
  | .endOfInput | .closeParenthesis | .endCase => true
  | .reserved keyword => keyword.endsList
  | _ => false

end Token

end WidgetPipeline.Shell
