import WidgetPipeline.Comment
import WidgetPipeline.FileTree.Basic

/-!
Hard failures: a source text that cannot be scanned, reference tables that are malformed, and a file
that cannot be read. Every other problem is a diagnostic.
-/

namespace WidgetPipeline

inductive PipelineError where
  /-- The source text cannot be scanned for comments. -/
  | commentScan (error : ScanError)
  /-- The reference tables are malformed. -/
  | config (message : String)
  | io (error : FileError)
deriving DecidableEq, Repr

namespace PipelineError

def category : PipelineError → String
  | .commentScan _ => "SCAN"
  | .config _ => "CONFIG"
  | .io _ => "IO"

/-- The text that reports the error within its class. -/
def message : PipelineError → String
  | .commentScan error => error.message
  | .config message => message
  | .io error => error.message

def display (error : PipelineError) : String := error.category ++ "/" ++ error.message

def cause? : PipelineError → Option String
  | .commentScan error => some error.message
  | .config _ => none
  | .io error => some error.message

/-- The error, and behind it the one that it passes on. -/
def chain (error : PipelineError) : String :=
  match error.cause? with
  | some cause => error.display ++ ": " ++ cause
  | none => error.display

end PipelineError

end WidgetPipeline
