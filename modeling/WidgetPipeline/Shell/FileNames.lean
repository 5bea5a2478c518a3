import WidgetPipeline.FileTree.Basic
import WidgetPipeline.Shell.Pattern

/-!
Names of files from patterns. A pattern is taken apart at its slashes; a part that is a pattern itself
stands for the names in a directory that match it, in order, and hidden ones only if the pattern says
so. A pattern that no file matches gives nothing.
-/

namespace WidgetPipeline.Shell.FileNames

/-- Whether a set of characters starts behind an opening bracket. -/
def closesSet : List Char → Bool
  | [] => false
  | '\\' :: _ :: rest => rest.head? = some ']' || closesSet rest
  | _ :: rest => rest.head? = some ']' || closesSet rest

/-- Whether a part of a path stands for more than itself. -/
def isPattern : List Char → Bool
  | [] => false
  | '\\' :: _ :: rest => isPattern rest
  | '[' :: rest => closesSet (if rest.head? = some '!' then rest.drop 1 else rest) || isPattern rest
  | c :: rest => c = '*' || c = '?' || isPattern rest

/-- A part of a path without the marks of characters that stand for themselves. -/
def plain : List Char → List Char
  | [] => []
  | '\\' :: c :: rest => c :: plain rest
  | c :: rest => c :: plain rest

/-- A part of a path and the number of slashes behind it. -/
structure Step where
  part : List Char
  slashes : Nat := 0
deriving Repr

def Step.cons (cs : List Char) : List Step → List Step
  | step :: steps => { step with part := cs ++ step.part } :: steps
  | [] => [{ part := cs }]

def Step.slash : List Step → List Step
  | step :: steps =>
    if step.part.isEmpty && 0 < step.slashes then { step with slashes := step.slashes + 1 } :: steps
    else { part := [], slashes := 1 } :: step :: steps
  | [] => [{ part := [], slashes := 1 }]

def steps : List Char → List Step
  | [] => []
  | '/' :: rest => Step.slash (steps rest)
  | '\\' :: '/' :: rest => Step.slash (steps rest)
  | '\\' :: c :: rest => Step.cons ['\\', c] (steps rest)
  | c :: rest => Step.cons [c] (steps rest)

def entries (files : FileTree) (path : String) : List String :=
  match files.spot (if path.isEmpty then "." else path) with
  | .ok { names, node := some .directory } =>
    let start := FileTree.pathOf names ++ "/"
    files.nodes.toList.filterMap fun (path, _) =>
      if path.startsWith start then
        let name := String.ofList (path.toList.drop start.length)
        if name.contains '/' then none else some name
      else none
  | _ => []

def namesFor (files : FileTree) (path : String) (part : List Char) : List String :=
  let hidden := part.head? = some '.' || part.take 2 = ['\\', '.']
  let names := (if hidden then [".", ".."] else []) ++ entries files path
  names.filter fun name =>
    (hidden || !name.startsWith ".") && matchesPattern part name.toList

/-- The paths that steps lead to from a first part of a path. `found` tells that there was a pattern on
the way. -/
def follow (files : FileTree) (found : Bool) (path : String) : List Step → List String
  | [] => if !found || (files.find path).toOption.isSome then [path] else []
  | { part, slashes } :: steps =>
    let behind := String.ofList (List.replicate slashes '/')
    if isPattern part then
      (namesFor files path part).flatMap fun name =>
        if slashes = 0 then [path ++ name]
        else follow files true (path ++ name ++ behind) steps
    else follow files found (path ++ String.ofList (plain part) ++ behind) steps

def expand (files : FileTree) (pattern : List Char) : List String :=
  let steps := steps pattern
  if steps.any fun step => isPattern step.part then
    (follow files false "" steps).mergeSort fun a b => a ≤ b
  else []

end WidgetPipeline.Shell.FileNames
