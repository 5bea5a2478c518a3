import WidgetPipeline.External.Program
import WidgetPipeline.FileTree.Basic
import WidgetPipeline.Shell.Reader.Basic

/-!
What shells share with the programs that they start: the files, and the channels that descriptors lead
to. A channel keeps its place in a file, and all descriptors that were copied from one another share
the channel.
-/

namespace WidgetPipeline.Shell

open External (ExitStatus)

/-- Bytes on their way. Those that were written last stand first in `back`. What writes to a pipe runs
before what reads from it; so that a writer without an end does not run forever, a pipe can have only
room for some bytes, and is broken for whoever writes more. It is then starved once a reader asks for
the bytes that were refused. -/
structure Pipe where
  front : List UInt8 := []
  back : List UInt8 := []
  /-- The number of bytes that it still takes, if there is a bound. -/
  room : Option Nat := none
  broken : Bool := false
  starved : Bool := false

namespace Pipe

/-- All bytes, the first ones first. -/
def bytes (pipe : Pipe) : List UInt8 :=
  if pipe.back.isEmpty then pipe.front else pipe.front ++ pipe.back.reverse

/-- Writes bytes, as far as there is room. -/
def write (pipe : Pipe) (bytes : List UInt8) : Pipe :=
  match pipe.room with
  | none => { pipe with back := bytes.reverse ++ pipe.back }
  | some room =>
    let taken := bytes.take room
    { pipe with
      back := taken.reverse ++ pipe.back
      room := some (room - taken.length)
      broken := pipe.broken || room < bytes.length }

def ask (pipe : Pipe) : Pipe := { pipe with starved := pipe.starved || pipe.broken }

end Pipe

inductive Endpoint where
  | pipe (index : Nat)
  | file (names : List String) (place : Nat) (atEnd : Bool)
  | device (device : Device)
  | directory
deriving Repr

structure Channel where
  endpoint : Endpoint
  readable : Bool := true
  writable : Bool := true
deriving Repr

structure World where
  files : FileTree
  pipes : Array Pipe := #[]
  channels : Array Channel := #[]
  documents : List (Nat × Document) := []
  nextDocument : Nat := 0
  nextProcess : Nat := 4242
  /-- How the processes ended that are not waited for at once. -/
  ended : List (Nat × ExitStatus) := []
  /-- Signals on their way, each with the process that gets it. -/
  signals : List (Nat × Nat) := []
  /-- Signals of processes that are not waited for. They arrive once their receiver waits. -/
  lateSignals : List (Nat × Nat) := []
  /-- The number of rounds of loops that are run before a process is taken for one without an end, if
  there is a bound. -/
  rounds : Option Nat := none

namespace World

def addChannel (world : World) (channel : Channel) : Nat × World :=
  (world.channels.size, { world with channels := world.channels.push channel })

def addPipe (world : World) (pipe : Pipe) : Nat × World :=
  (world.pipes.size, { world with pipes := world.pipes.push pipe })

def channel (world : World) (index : Nat) : Channel :=
  (world.channels[index]?).getD { endpoint := .device .null }

def pipe (world : World) (index : Nat) : Pipe := (world.pipes[index]?).getD {}

def setPipe (world : World) (index : Nat) (pipe : Pipe) : World :=
  { world with pipes := world.pipes.setIfInBounds index pipe }

def setEndpoint (world : World) (index : Nat) (endpoint : Endpoint) : World :=
  let channel := { world.channel index with endpoint }
  { world with channels := world.channels.setIfInBounds index channel }

def fileBytes (world : World) (names : List String) : List UInt8 :=
  match world.files.node? names with
  | some (.file bytes) => bytes
  | some (.program _) => FileTree.programBytes
  | _ => []

/-- Why a channel cannot be used, in words. -/
def badDescriptor : String := "Bad file descriptor"

/-- The bytes that can be read from a channel, or why there are none. -/
def available (world : World) (index : Nat) : Except String (List UInt8) :=
  let channel := world.channel index
  if !channel.readable then .error badDescriptor
  else
    match channel.endpoint with
    | .pipe pipe => .ok (world.pipe pipe).bytes
    | .file names place _ => .ok ((world.fileBytes names).drop place)
    | .device _ => .ok []
    | .directory => .error FileError.isDirectory.reason

/-- Leaves only some last bytes to be read from a channel. -/
def leave (world : World) (index : Nat) (rest : List UInt8) : World :=
  match (world.channel index).endpoint with
  | .pipe pipe => world.setPipe pipe { world.pipe pipe with front := rest, back := [] }
  | .file names _ atEnd =>
    world.setEndpoint index (.file names ((world.fileBytes names).length - rest.length) atEnd)
  | _ => world

def ask (world : World) (index : Nat) : World :=
  match (world.channel index).endpoint with
  | .pipe pipe => world.setPipe pipe (world.pipe pipe).ask
  | _ => world

/-- Whether a channel leads to a broken pipe. -/
def isBroken (world : World) (index : Nat) : Bool :=
  match (world.channel index).endpoint with
  | .pipe pipe => (world.pipe pipe).broken
  | _ => false

/-- Bytes with others written over them from a place on. -/
def overwrite (old : List UInt8) (place : Nat) (bytes : List UInt8) : List UInt8 :=
  old.take place ++ List.replicate (place - old.length) 0 ++ bytes ++ old.drop (place + bytes.length)

/-- Writes bytes to a channel, or tells in words why it cannot. -/
def write (world : World) (index : Nat) (bytes : List UInt8) : Except String World :=
  let channel := world.channel index
  if !channel.writable then .error badDescriptor
  else
    match channel.endpoint with
    | .pipe pipe => .ok (world.setPipe pipe ((world.pipe pipe).write bytes))
    | .file names place atEnd =>
      let old := world.fileBytes names
      let place := if atEnd then old.length else place
      let world := { world with
        files := world.files.put names (.file (overwrite old place bytes)) }
      .ok (world.setEndpoint index (.file names (place + bytes.length) atEnd))
    | .device .full => if bytes.isEmpty then .ok world else .error "No space left on device"
    | .device _ => .ok world
    | .directory => .error badDescriptor

def document (world : World) (index : Nat) : Document := (world.documents.lookup index).getD {}

end World

end WidgetPipeline.Shell
