import WidgetPipeline.OrderedMap
import WidgetPipeline.Text.Bytes

/-!
The files of a system as a tree. Every node has one path from the root; a path in a call is a list of
names between slashes that is walked from the root or from a directory, through links and back
through parents. Names are byte strings.
-/

namespace WidgetPipeline

/-- Why a path led to no file, or a file gave no text. -/
inductive FileError where
  | notFound
  | isDirectory
  | notDirectory
  /-- A path, or a name in it, has too many bytes. -/
  | tooLong
  | noDevice
  /-- A path that holds the character with the code 0. -/
  | badPath
  | badText
deriving DecidableEq, Repr

def FileError.reason : FileError → String
  | .notFound => "No such file or directory"
  | .isDirectory => "Is a directory"
  | .notDirectory => "Not a directory"
  | .tooLong => "File name too long"
  | .noDevice => "No such device or address"
  | .badPath => "file name contained an unexpected NUL byte"
  | .badText => "stream did not contain valid UTF-8"

def FileError.number? : FileError → Option Nat
  | .notFound => some 2
  | .isDirectory => some 21
  | .notDirectory => some 20
  | .tooLong => some 36
  | .noDevice => some 6
  | .badPath | .badText => none

def FileError.message (error : FileError) : String :=
  match error.number? with
  | some number => s!"{error.reason} (os error {number})"
  | none => error.reason

def textOfBytes (bytes : List UInt8) : Except FileError String :=
  match Text.Utf8.decode bytes with
  | .ok text => .ok text
  | .error _ => .error .badText

/-- A file without bytes of its own. -/
inductive Device where
  /-- It is always empty and takes everything. -/
  | null
  | full
  /-- The terminal, which is not there. -/
  | terminal
  /-- A stream of the program that opens it, by number. -/
  | stream (number : Nat)
deriving DecidableEq, Repr

inductive FileNode where
  | directory
  | file (bytes : List UInt8)
  | device (device : Device)
  | program (name : String)
  | link (target : String)
deriving DecidableEq, Repr

/-- The files of a system, and the directory from which paths start that do not start at the root. -/
structure FileTree where
  /-- The nodes by their paths. The path of the root is empty. -/
  nodes : OrderedMap String FileNode := ∅
  home : List String := []

namespace FileTree

def names (path : String) : List String := (Text.pieces '/' path.toList).map String.ofList

def pathOf (names : List String) : String := String.join (names.map ("/" ++ ·))

/-- The node at the end of some names. The root is always there. -/
def node? (tree : FileTree) (names : List String) : Option FileNode :=
  if names.isEmpty then some .directory else tree.nodes.get? (pathOf names)

def put (tree : FileTree) (names : List String) (node : FileNode) : FileTree :=
  { tree with nodes := tree.nodes.insert (pathOf names) node }

/-- Takes away the node at the end of some names. -/
def remove (tree : FileTree) (names : List String) : FileTree :=
  { tree with nodes := tree.nodes.erase (pathOf names) }

def maxNameLength : Nat := 255

def maxPathLength : Nat := 4095

/-- A place that a path leads to. Its directory exists, the node itself need not. -/
structure Spot where
  names : List String
  node : Option FileNode
deriving Repr

/-- Walks from a directory through names. `fuel` bounds the number of steps. -/
def walk (tree : FileTree) : Nat → List String → List String → Except FileError Spot
  | 0, _, _ => .error .tooLong
  | fuel + 1, here, names =>
    match tree.node? here, names with
    | none, [] => .ok { names := here, node := none }
    | none, _ => .error .notFound
    | some (.link target), rest => tree.walk fuel [] (FileTree.names target ++ rest)
    | some node, [] => .ok { names := here, node := some node }
    | some .directory, name :: rest =>
      if name = "" || name = "." then tree.walk fuel here rest
      else if name = ".." then tree.walk fuel here.dropLast rest
      else if name.length > maxNameLength then .error .tooLong
      else tree.walk fuel (here ++ [name]) rest
    | some _, _ => .error .notDirectory

def spot (tree : FileTree) (path : String) : Except FileError Spot :=
  if path.isEmpty then .error .notFound
  else if path.length > maxPathLength then .error .tooLong
  else tree.walk (8 * maxPathLength) (if path.startsWith "/" then [] else tree.home) (names path)

def find (tree : FileTree) (path : String) : Except FileError FileNode := do
  match (← tree.spot path).node with
  | some node => return node
  | none => throw .notFound

/-- The bytes by which programs are known to be no text. -/
def programBytes : List UInt8 := [0x7F, 0x45, 0x4C, 0x46, 0x80]

/-- The bytes of the file at a path. A stream is given by its number. -/
def readWith (tree : FileTree) (stream : Nat → List UInt8) (path : String) :
    Except FileError (List UInt8) := do
  match ← tree.find path with
  | .file bytes => return bytes
  | .program _ => return programBytes
  | .device (.stream number) => return stream number
  | .device .terminal => throw .noDevice
  | .device _ => return []
  | .directory | .link _ => throw .isDirectory

/-- The path of a file seen from the directory where paths start. -/
def join (tree : FileTree) (path : String) : String :=
  if path.startsWith "/" then path else pathOf tree.home ++ "/" ++ path

def readText (tree : FileTree) (input : List UInt8) (path : String) : Except FileError String :=
  if path.toList.contains '\x00' then .error .badPath
  else
    (tree.readWith (fun number => if number = 0 then input else []) (Text.narrow path)).bind
      textOfBytes

end FileTree

end WidgetPipeline
