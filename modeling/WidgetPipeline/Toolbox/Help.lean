import WidgetPipeline.Toolbox.Options

/-!
What tools tell about themselves when they are asked to. Whoever asks gets nothing else: the options
behind the request and the operands are not looked at.
-/

namespace WidgetPipeline.Toolbox

open External (Outcome)

/-- What a tool can be asked about itself. -/
inductive Notice where
  | help
  | version
deriving DecidableEq, Repr

def ReadArguments.notice? (arguments : ReadArguments) : Option Notice :=
  arguments.options.findSome? fun option =>
    match option with
    | .long "help" _ => some .help
    | .long "version" _ => some .version
    | _ => none

/-- The request that a tool gets that knows no other long option, and this only alone. -/
def soleNotice? : List String → Option Notice
  | ["--help"] => some .help
  | ["--version"] => some .version
  | _ => none

structure Manual where
  tool : String
  forms : List String
  body : List String

def noticeLines : List String :=
  ["      --help        display this help and exit",
    "      --version     output version information and exit"]

namespace Manual

/-- The forms of a call of a tool, as lines. -/
def usage (manual : Manual) (name : String) : List String :=
  manual.forms.mapIdx fun i form =>
    (if i = 0 then "Usage: " else "  or:  ") ++ name ++ " " ++ form

def lines (manual : Manual) (name : String) : Notice → List String
  | .help => manual.usage name ++ manual.body ++ noticeLines
  | .version => [s!"{manual.tool} (GNU coreutils) 9.1"]

end Manual

/-- The outcome of a call that only asks for a notice. `early` tells that the tool writes line by line. -/
def Call.inform (call : Call) (manual : Manual) (notice : Notice) (early : Bool := false) : Outcome :=
  let text := String.join ((manual.lines call.name notice).map (· ++ "\n"))
  call.finish (call.start.write (Text.toBytes text)) early

def idle (tool : String) (status : Nat) (call : Call) : Outcome :=
  let outcome :=
    match soleNotice? call.arguments with
    | some notice =>
      let end_ := if status = 0 then "success" else "failure"
      let manual : Manual :=
        { tool
          forms := ["[ignored command line arguments]", "OPTION"]
          body := [s!"Exit with a status code indicating {end_}.", ""] }
      call.inform manual notice
    | none => call.finish call.start
  { outcome with status := if outcome.status = .code 0 then .code status else outcome.status }

end WidgetPipeline.Toolbox
