import WidgetPipeline.Diagnostic
import WidgetPipeline.Json.Printer
import WidgetPipeline.Reference.Basic
import WidgetPipeline.Tables
import WidgetPipeline.Text.Decimal

/-!
Resolution of references. The first segment of a reference selects the table and the others are the
path in it. A miss is a warning and leaves a text that names the path again, except for a module,
whose address follows from its path alone. All references of a text are replaced in one pass, so a
replacement is never read for references.
-/

namespace WidgetPipeline

namespace Reference

/-- The tables that a reference can name. -/
inductive Keyword where
  | config
  | module
  | ipfs
  | alias
deriving DecidableEq, Repr

def Keyword.name : Keyword → String
  | .config => "config"
  | .module => "module"
  | .ipfs => "ipfs"
  | .alias => "alias"

def Keyword.ofName? : String → Option Keyword
  | "config" => some .config
  | "module" => some .module
  | "ipfs" => some .ipfs
  | "alias" => some .alias
  | _ => none

theorem Keyword.ofName?_name (keyword : Keyword) : ofName? keyword.name = some keyword := by
  cases keyword <;> rfl

def joinSegments (separator : Char) (path : List String) : String :=
  String.ofList ([separator].intercalate (path.map String.toList))

def wrap (path scope : String) : String :=
  String.ofList (expression (scope.toList ++ '/' :: path.toList))

inductive Miss where
  /-- The first segment names no table. -/
  | unknownKeyword (name : String)
  /-- The expression stands for nothing in the table. -/
  | absent (keyword : Keyword) (expression : String)
deriving DecidableEq, Repr

def Miss.message : Miss → String
  | .unknownKeyword name => "Unknown keyword: " ++ name
  | .absent .config expression => "Config value not found: " ++ expression
  | .absent .module expression => "Imported module not found locally: " ++ expression
  | .absent .ipfs expression => "IPFS file or mapping not found: " ++ expression
  | .absent .alias expression => "Imported alias not found: " ++ expression

/-- The text that takes the place of a reference, and why it is not the one asked for. -/
structure Resolution where
  text : String
  miss : Option Miss := none
deriving DecidableEq, Repr

def Resolution.logs (resolution : Resolution) : List Diagnostic :=
  (resolution.miss.map fun miss => Diagnostic.warn miss.message).toList

/-- The value below a value that one segment names: a key of an object, or a position in an array. -/
def child? (value : Json) (segment : String) : Option Json :=
  match value with
  | .object fields => Entries.find? segment fields
  | .array items => (Text.readUnsigned64? segment.toList).bind fun index => items[index]?
  | _ => none

/-- The value at a path in a tree. An empty path names nothing. -/
def lookup? (tree : Json) (path : List String) : Option Json :=
  if path.isEmpty then none else path.foldlM child? tree

/-- The text of a value inside source text: a string stands for itself, other values for their JSON
text. -/
def valueText : Json → String
  | .string s => s
  | value => value.compact

/-- The path in the configuration tree that a reference asks for: `account` is short for the account
that deploys. -/
def configPath : List String → List String
  | "account" :: _ => ["accounts", "deploy"]
  | path => path

def resolveConfig (config : Json) (path : List String) : Resolution :=
  let path := configPath path
  match lookup? config path with
  | some value => { text := valueText value }
  | none =>
    let expression := wrap (joinSegments '/' path) Keyword.config.name
    { text := expression, miss := some (.absent .config expression) }

/-- Resolves the path of a module to its address below the account. -/
def resolveModule (modules : OrderedMap String Unit) (account : String) (path : List String) :
    Resolution :=
  let module := joinSegments '.' path
  let expression := wrap (joinSegments '/' path) Keyword.module.name
  { text := account ++ "/widget/" ++ module ++ ".module"
    miss := if modules.contains module then none else some (.absent .module expression) }

def withoutFinalSlash (text : String) : String :=
  match text.toList.reverse with
  | '/' :: rest => String.ofList rest.reverse
  | _ => text

/-- Resolves the path of an asset to its address below the gateway. -/
def resolveAsset (assets : OrderedMap String String) (gateway : String) (path : List String) :
    Resolution :=
  let asset := joinSegments '/' path
  match assets.get? asset with
  | some address => { text := withoutFinalSlash gateway ++ "/" ++ address }
  | none =>
    let expression := wrap asset Keyword.ipfs.name
    { text := expression, miss := some (.absent .ipfs expression) }

def resolveAlias (aliases : OrderedMap String String) (path : List String) : Resolution :=
  let key := joinSegments '/' path
  match aliases.get? key with
  | some text => { text }
  | none =>
    let expression := wrap key Keyword.alias.name
    { text := expression, miss := some (.absent .alias expression) }

def Keyword.resolve (keyword : Keyword) (tables : ReferenceTables) (path : List String) :
    Resolution :=
  match keyword with
  | .config => resolveConfig tables.config path
  | .module => resolveModule tables.modules tables.deployAccount path
  | .ipfs => resolveAsset tables.assets tables.gateway path
  | .alias => resolveAlias tables.aliases path

/-- Resolves the text in the braces of a reference. A reference to no table stays as it is. -/
def resolveInner (tables : ReferenceTables) (inner : List Char) : Resolution :=
  let segments := (Text.pieces '/' inner).map String.ofList
  let name := segments.headD ""
  match Keyword.ofName? name with
  | some keyword => keyword.resolve tables segments.tail
  | none => { text := String.ofList (expression inner), miss := some (.unknownKeyword name) }

def Piece.resolve (tables : ReferenceTables) : Piece → List Char × List Diagnostic
  | .plain c => ([c], [])
  | .reference inner =>
    let resolution := resolveInner tables inner
    (resolution.text.toList, resolution.logs)

end Reference

/-- Replaces every reference of a text, from left to right. -/
def resolveReferences (tables : ReferenceTables) (code : String) : StepOutput :=
  let resolved := (Reference.pieces code.toList).map (Reference.Piece.resolve tables)
  { code := String.ofList (resolved.flatMap (·.1)), logs := resolved.flatMap (·.2) }

end WidgetPipeline
