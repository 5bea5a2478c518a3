import WidgetPipeline.Text.Pieces

/-!
Default exports of a module, and how they become the `return` of a function body. A phrase is
`export`, white space, `default` and all white space behind it. Of the phrases that are followed by
a name and a semicolon the first becomes a call of that name, and then the first phrase that is left
becomes a plain `return`.
-/

namespace WidgetPipeline.Export

def dropExpected : List Char → List Char → Option (List Char)
  | [], cs => some cs
  | _ :: _, [] => none
  | e :: expected, c :: cs => if e = c then dropExpected expected cs else none

/-- The text behind white space of at least one character. -/
def dropBlanks : List Char → Option (List Char)
  | [] => none
  | c :: cs => if Text.isBlank c then some (Text.trimStart cs) else none

/-- The text behind the phrase at the front of a text, if one stands there. -/
def dropPhrase? (cs : List Char) : Option (List Char) := do
  let cs ← dropExpected "export".toList cs
  let cs ← dropBlanks cs
  let cs ← dropExpected "default".toList cs
  dropBlanks cs

/-- The name behind the phrase at the front of a text, and the text behind its semicolon. -/
def dropNamedPhrase? (cs : List Char) : Option (List Char × List Char) := do
  let cs ← dropPhrase? cs
  let name := cs.takeWhile Text.isWordChar
  match name, cs.dropWhile Text.isWordChar with
  | [], _ => none
  | _, ';' :: rest => some (name, rest)
  | _, _ => none

/-- Replaces the first phrase, together with its name and semicolon, by what `rule` makes of it. The
rule gives the replacement and the text that follows. -/
def replaceFirst (rule : List Char → Option (List Char × List Char)) (cs : List Char) : List Char :=
  match rule cs, cs with
  | some (replacement, rest), _ => replacement ++ rest
  | none, [] => []
  | none, c :: cs => c :: replaceFirst rule cs

/-- A named phrase becomes a call of the name. -/
def callRule (cs : List Char) : Option (List Char × List Char) :=
  (dropNamedPhrase? cs).map fun (name, rest) =>
    ("return ".toList ++ name ++ "(props);".toList, rest)

def returnRule (cs : List Char) : Option (List Char × List Char) :=
  (dropPhrase? cs).map fun rest => ("return ".toList, rest)

/-- Whether a phrase stands anywhere in the text. -/
def hasPhrase : List Char → Bool
  | [] => false
  | c :: cs => (dropPhrase? (c :: cs)).isSome || hasPhrase cs

/-- The text of a module as a function body: default exports become returns. -/
def toFunctionBody (code : String) : String :=
  String.ofList (replaceFirst returnRule (replaceFirst callRule code.toList))

end WidgetPipeline.Export
