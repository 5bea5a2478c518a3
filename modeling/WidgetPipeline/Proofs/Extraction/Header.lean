import WidgetPipeline.Proofs.Directive.Value
import WidgetPipeline.Proofs.Extraction.Kept
import WidgetPipeline.Proofs.Script.Shift

/-!
# A directive on a line in front of a source

A directive that is written as a line comment is read back with its name and its value
(`Directive.ofComment?_text`), and its line is gone from what is left. The rest of the source is
extracted as on its own, one line further down; where that fails, it fails in the same way
(`extractDirectives_header`).
-/

namespace WidgetPipeline

namespace Directive

/-- The directive with its lines renumbered. -/
def renumber (renumber : Nat → Nat) (directive : Directive) : Directive where
  name := directive.name
  value := directive.value
  firstLine := renumber directive.firstLine
  lastLine := renumber directive.lastLine

/-- The value in its parentheses, if there is one. -/
def parenthesized : Option String → String
  | some value => "(" ++ value ++ ")"
  | none => ""

/-- A directive as it is written: an at sign, the name and the value in parentheses. -/
def text (name : String) (value : Option String) : String := "@" ++ name ++ parenthesized value

theorem ofComment?_renumber (renumber : Nat → Nat) (comment : Comment) :
    ofComment? (comment.renumber renumber) =
      (ofComment? comment).map (Directive.renumber renumber) := by
  rw [ofComment?, ofComment?, Option.map_map]
  rfl

theorem toList_text (name : String) (value : Option String) :
    (text name value).toList = '@' :: (name.toList ++ (parenthesized value).toList) := by
  simp [text]

/-- A name and a value with which a directive can be written on one line: the name is a word, and
the value has no line break. -/
structure FitsLine (name : String) (value : Option String) : Prop where
  named : name ≠ ""
  word : ∀ c ∈ name.toList, Text.isWordChar c = true
  single : ∀ text ∈ value, '\n' ∉ text.toList

variable {name : String} {value : Option String}

/-- What is written in parentheses is read as the value. -/
theorem value?_parenthesized (fits : FitsLine name value) :
    value? (parenthesized value).toList = value.map String.toList := by
  cases value with
  | none => rfl
  | some text =>
    refine value?_eq_some_iff.2 ⟨[], [], by simp [parenthesized], fits.single text rfl, by simp,
      by simp, .inl rfl⟩

/-- A directive is read back as it is written. -/
theorem parse?_text (fits : FitsLine name value) :
    parse? (text name value).toList = some (name.toList, value.map String.toList) := by
  refine parse?_eq_some_iff.2 ⟨by simpa using fits.named, fits.word, (parenthesized value).toList, ?_,
    ?_, (value?_parenthesized fits).symm⟩
  · rw [toList_text, Text.trimStart_cons (by decide)]
  · have hopen : Text.isWordChar '(' = false := by decide
    cases value with
    | none => simp [parenthesized]
    | some text => simpa [parenthesized] using hopen

theorem ofComment?_text (fits : FitsLine name value) (firstLine lastLine : Nat) :
    ofComment? ⟨text name value, firstLine, lastLine⟩ =
      some ⟨name, value, firstLine, lastLine⟩ := by
  rw [ofComment?, parse?_text fits]
  cases value <;> simp

/-- No white space ends a directive. -/
theorem exists_last_text (fits : FitsLine name value) :
    ∃ front c, (text name value).toList = front ++ [c] ∧ Text.isBlank c = false := by
  cases value with
  | some value =>
    exact ⟨'@' :: (name.toList ++ '(' :: value.toList), ')', by simp [text, parenthesized],
      by decide⟩
  | none =>
    have hlist : name.toList ≠ [] := by simpa using fits.named
    refine ⟨'@' :: name.toList.dropLast, name.toList.getLast hlist, ?_, ?_⟩
    · simp [text, parenthesized, List.dropLast_concat_getLast]
    · have hlast := fits.word _ (List.getLast_mem hlist)
      rw [← Bool.not_eq_true]
      intro hblank
      simp [Text.isWordChar_of_isBlank hblank] at hlast

/-- The white space between the slashes of a line comment and a directive is no part of what the
comment says. -/
theorem trim_blank_text (fits : FitsLine name value) :
    Text.trim (' ' :: (text name value).toList) = (text name value).toList := by
  have hstart : Text.trimStart (' ' :: (text name value).toList) = (text name value).toList := by
    rw [Text.trimStart_blank (by decide), toList_text, Text.trimStart_cons (by decide)]
  obtain ⟨front, last, htext, hlast⟩ := exists_last_text fits
  rw [Text.trim, hstart, htext, Text.trimEnd_concat hlast]

theorem single_text (fits : FitsLine name value) : '\n' ∉ (text name value).toList := by
  have hname : '\n' ∉ name.toList := by
    intro hmem
    have hbreak := fits.word _ hmem
    simp [Text.isWordChar_of_isBlank (c := '\n') (by decide)] at hbreak
  cases value with
  | none => simpa [text, parenthesized] using hname
  | some value => simpa [text, parenthesized] using ⟨hname, fits.single value rfl⟩

end Directive

/-! ## The scan behind the line -/

namespace Script

/-- The directive in a line comment, with the line break behind it. -/
def headerCode (name : String) (value : Option String) : Code :=
  .token (.lineComment (' ' :: (Directive.text name value).toList)) (.token (.blank '\n') .nil)

variable {name : String} {value : Option String}

theorem comments_headerCode (fits : Directive.FitsLine name value) :
    (headerCode name value).comments {} = [(0, ⟨Directive.text name value, 1, 1⟩)] := by
  simp [headerCode, Code.comments, Token.comments, Directive.trim_blank_text fits]

/-- The scan finds the directive, and then what it finds without the line, one line further down.
-/
theorem scanFrom_header (fits : Directive.FitsLine name value) (cs : List Char) :
    scanFrom {} ((headerCode name value).text ++ cs) =
      (shiftResult (Text.byteLength (headerCode name value).text) 1 (scanFrom {} cs)).map
        ((0, ⟨Directive.text name value, 1, 1⟩) :: ·) := by
  have hsingle := Directive.single_text fits
  have hfits : (headerCode name value).Fits true cs :=
    ⟨⟨by simpa using hsingle, .inr ⟨cs, rfl⟩⟩, (by decide : Text.isBlank '\n' = true), trivial⟩
  have hbreaks : Text.lineBreaks (headerCode name value).text = 1 := by
    simp [headerCode, Code.text, Token.text, Text.lineBreaks_eq_zero hsingle]
  rw [Code.scanFrom_append _ cs hfits rfl, comments_headerCode fits, hbreaks]
  rfl

end Script

/-! ## Lines -/

namespace Extraction

open Script

theorem blankLines_first (line : List Char) (ls : List (List Char)) :
    blankLines 1 1 (line :: ls) = [] :: ls := by
  apply List.ext_getElem?
  intro index
  cases index with
  | zero => simp [blankLines]
  | succ index => simp [blankLines]

theorem blankLines_behind (first last : Nat) (ls : List (List Char)) :
    blankLines (first + 1) (last + 1) ([] :: ls) = [] :: blankLines first last ls := by
  simp [blankLines]

/-- Behind an empty line directives empty the same lines, one line further down. -/
theorem foldl_blankLines_behind (directives : List Directive) (ls : List (List Char)) :
    (directives.map (Directive.renumber (· + 1))).foldl
        (fun ls directive => blankLines directive.firstLine directive.lastLine ls) ([] :: ls) =
      [] :: directives.foldl
        (fun ls directive => blankLines directive.firstLine directive.lastLine ls) ls := by
  induction directives generalizing ls with
  | nil => rfl
  | cons directive directives ih =>
    simp only [List.map_cons, List.foldl_cons, Directive.renumber, blankLines_behind, ih]

/-- The line that a directive stands on in front of a source. -/
def headerLine (name : String) (value : Option String) : String :=
  "// " ++ Directive.text name value

/-- What is extracted from a source that follows such a line. -/
def behindHeader (name : String) (value : Option String) (extraction : Extraction) :
    Extraction where
  code := extraction.code
  logs := extraction.logs
  directives := ⟨name, value, 1, 1⟩ :: extraction.directives.map (Directive.renumber (· + 1))

variable {name : String} {value : Option String} {rest : String}

theorem toList_header (name : String) (value : Option String) (rest : String) :
    (headerLine name value ++ "\n" ++ rest).toList =
      (headerCode name value).text ++ rest.toList := by
  simp [headerLine, headerCode, Code.text, Token.text]

/-- The comments of the source behind the line give the same code and the same directives, one line
further down. -/
theorem ofComments_header (fits : Directive.FitsLine name value) {comments longer : CommentMap}
    {bytes : Nat}
    (hlonger : longer.toList =
      (0, ⟨Directive.text name value, 1, 1⟩) :: comments.toList.map (shiftEntry bytes 1)) :
    ofComments longer (headerLine name value ++ "\n" ++ rest) =
      behindHeader name value (ofComments comments rest) := by
  have hdirectives : longer.values.filterMap Directive.ofComment? =
      ⟨name, value, 1, 1⟩ ::
        (comments.values.filterMap Directive.ofComment?).map (Directive.renumber (· + 1)) := by
    have hrest : ((comments.toList.map (shiftEntry bytes 1)).map (·.2)).filterMap
        Directive.ofComment? =
        (comments.values.filterMap Directive.ofComment?).map (Directive.renumber (· + 1)) := by
      rw [OrderedMap.values, List.map_map, List.filterMap_map, List.filterMap_map,
        List.map_filterMap]
      congr 1
      funext entry
      exact Directive.ofComment?_renumber (· + 1) entry.2
    rw [OrderedMap.values, hlonger, List.map_cons,
      List.filterMap_cons_some (Directive.ofComment?_text fits 1 1), hrest]
  have hlines : Text.lines (headerLine name value ++ "\n" ++ rest).toList =
      (headerLine name value).toList :: Text.lines rest.toList := by
    have hline : '\n' ∉ (headerLine name value).toList := by
      simpa [headerLine] using Directive.single_text fits
    rw [← Text.lines_append_break hline]
    simp
  simp only [ofComments, behindHeader, hdirectives, hlines, List.foldl_cons, blankLines_first,
    foldl_blankLines_behind, joinNonempty_cons_nil]

/-- A directive on a line of its own in front of a source is taken out with its name and its value.
The rest is extracted as without that line, or fails as without it, one line further down. -/
theorem extractDirectives_header (fits : Directive.FitsLine name value) (rest : String) :
    extractDirectives scanComments (headerLine name value ++ "\n" ++ rest) =
      match extractDirectives scanComments rest with
      | .ok extraction => .ok (behindHeader name value extraction)
      | .error error => .error (error.renumber (· + 1)) := by
  have hscan := scanFrom_header fits rest.toList
  rw [← toList_header] at hscan
  cases hrest : scanFrom {} rest.toList with
  | error error =>
    rw [hrest] at hscan
    rw [extractDirectives_eq_error_iff.2 (scanComments_eq_error_iff.2 hrest)]
    exact extractDirectives_eq_error_iff.2 (scanComments_eq_error_iff.2 hscan)
  | ok comments =>
    have hcomments : scanComments rest = .ok ⟨comments, (scanFrom_inOrder hrest).ascending⟩ :=
      scanComments_eq_ok_iff.2 hrest
    rw [hrest] at hscan
    have hlonger : scanComments (headerLine name value ++ "\n" ++ rest) =
        .ok ⟨_, (scanFrom_inOrder hscan).ascending⟩ := scanComments_eq_ok_iff.2 hscan
    rw [extractDirectives_eq_ok_iff.2 ⟨_, hcomments, rfl⟩]
    exact extractDirectives_eq_ok_iff.2 ⟨_, hlonger, ofComments_header fits rfl⟩

theorem extractDirectives_header_delimiters :
    extractDirectives scanComments (headerLine "a_1" (some "f(\x60) */") ++ "\n" ++ "/* @b */\nc") =
        .ok { code := "c", directives := [⟨"a_1", some "f(\x60) */", 1, 1⟩, ⟨"b", none, 2, 2⟩] } ∧
      extractDirectives scanComments (headerLine "a_1" none ++ "\n" ++ "\x60") =
        .error (.unclosedLiteral .template 2) := by
  have hdirective : extractDirectives scanComments "/* @b */\nc" =
      .ok { code := "c", directives := [⟨"b", none, 1, 1⟩] } :=
    eq_ok_of_toOption (by decide +kernel)
  have hopen : extractDirectives scanComments "\x60" = .error (.unclosedLiteral .template 1) := by
    rw [extractDirectives_eq_error_iff, scanComments_eq_error_iff]
    have hsteps : Steps {} ['\x60'] [] (State.after {} .openTemplate) [] := .openTemplate rfl []
    have hscan := hsteps.scanFrom_eq
    rw [scanFrom_nil] at hscan
    exact hscan
  constructor
  · rw [extractDirectives_header ⟨by decide, by decide, by simp⟩, hdirective]
    rfl
  · rw [extractDirectives_header ⟨by decide, by decide, by simp⟩, hopen]
    rfl

end Extraction

end WidgetPipeline
