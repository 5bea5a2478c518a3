import WidgetPipeline.Cli.Run
import WidgetPipeline.Toolbox.Host

/-!
The program. It collects the files that the arguments name, the standard input and the tools at hand,
and prints what the run leaves.
-/

namespace WidgetPipeline.Cli

def readBytes (path : String) : IO (Except FileError (List UInt8)) := do
  try
    return .ok (← IO.FS.readBinFile path).toList
  catch
    | .inappropriateType _ 21 _ => return .error .isDirectory
    | .inappropriateType .. => return .error .notDirectory
    | _ => return .error .notFound

partial def readAll (stream : IO.FS.Stream) (bytes : ByteArray) : IO ByteArray := do
  let more ← stream.read 65536
  if more.isEmpty then return bytes else readAll stream (bytes ++ more)

def surroundings (files : List (String × Except FileError (List UInt8))) (input : List UInt8) :
    Surroundings :=
  let tree := Toolbox.system (files.filterMap fun (name, bytes) => bytes.toOption.map (name, ·))
  { fileText := fun path => ((files.lookup path).getD (.error .notFound)).bind textOfBytes
    standardInput := Text.Utf8.decode input
    host := Toolbox.host tree }

def runArguments (arguments : Arguments) : IO Result := do
  let names := arguments.fileNames.filter (· ≠ "-")
  let files ← names.eraseDups.mapM fun name => return (name, ← readBytes name)
  let input ← if arguments.input = "-" then readAll (← IO.getStdin) .empty else pure .empty
  return arguments.run (surroundings files input.toList)

end WidgetPipeline.Cli

open WidgetPipeline.Cli in
def main (words : List String) : IO UInt32 := do
  let result ←
    match Arguments.ofWords words with
    | .ok arguments => runArguments arguments
    | .error error => pure error.result
  (← IO.getStdout).putStr result.output
  (← IO.getStderr).putStr result.errors
  return result.status.toUInt32
