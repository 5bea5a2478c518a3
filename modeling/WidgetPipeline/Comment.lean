import WidgetPipeline.OrderedMap

/-!
Comments found in a source text, what can stop a scan for them, and the shape of such a scan.
-/

namespace WidgetPipeline

/-- A comment without its delimiters, and the lines it covers, counted from 1. -/
structure Comment where
  content : String
  firstLine : Nat
  lastLine : Nat
deriving DecidableEq, Repr

/-- Comments by the byte offset at which they start, so that they are walked in source order. -/
abbrev CommentMap := OrderedMap Nat Comment

/-- Literals that have to be closed before the text ends. -/
inductive LiteralKind where
  | string
  | template
deriving DecidableEq, Repr

def LiteralKind.name : LiteralKind → String
  | .string => "string"
  | .template => "template"

/-- Why a source text cannot be scanned for comments. -/
inductive ScanError where
  /-- A block comment opened on this line has no end. -/
  | unclosedBlockComment (line : Nat)
  /-- A literal opened on this line has no end. -/
  | unclosedLiteral (kind : LiteralKind) (line : Nat)
deriving DecidableEq, Repr

def ScanError.message : ScanError → String
  | .unclosedBlockComment line => s!"unterminated block comment opened on line {line}"
  | .unclosedLiteral kind line => s!"unterminated {kind.name} literal opened on line {line}"

/-- Finds every comment of a source text, or says why that cannot be done. -/
abbrev CommentScanner := String → Except ScanError CommentMap

end WidgetPipeline
