/-!
Diagnostics: messages about a source text, each with a level and, where one is known, the line it
speaks of.
-/

namespace WidgetPipeline

inductive Level where
  | info
  | warn
  | error
deriving DecidableEq, Repr

def Level.name : Level → String
  | .info => "info"
  | .warn => "warn"
  | .error => "error"

def Level.ofName? : String → Option Level
  | "info" => some .info
  | "warn" => some .warn
  | "error" => some .error
  | _ => none

theorem Level.ofName?_name (level : Level) : Level.ofName? level.name = some level := by
  cases level <;> rfl

/-- A message about a source text. -/
structure Diagnostic where
  message : String
  level : Level
  /-- The line in the source text as it was given, counted from 1. -/
  line : Option Nat := none
deriving DecidableEq, Repr

namespace Diagnostic

def info (message : String) : Diagnostic := { message, level := .info }

def warn (message : String) : Diagnostic := { message, level := .warn }

def error (message : String) : Diagnostic := { message, level := .error }

def display (diagnostic : Diagnostic) : String :=
  let text := s!"{diagnostic.level.name}: {diagnostic.message}"
  match diagnostic.line with
  | some line => text ++ s!" (line {line})"
  | none => text

end Diagnostic

def countLevel (level : Level) (logs : List Diagnostic) : Nat :=
  logs.countP fun diagnostic => diagnostic.level = level

def anyError (logs : List Diagnostic) : Bool :=
  logs.any fun diagnostic => diagnostic.level = .error

/-- The text that a step leaves behind, and what it had to say. -/
structure StepOutput where
  code : String
  logs : List Diagnostic := []
deriving DecidableEq, Repr

end WidgetPipeline
