import WidgetPipeline.Proofs.Extraction.Kept
import WidgetPipeline.Proofs.Script.Rendering

/-!
# Literals with line breaks in them

Extraction leaves out the empty lines of a source along with the lines of its directives, and an
empty line may be text of a template literal. Also where there is nothing to extract, each run of
line breaks in a literal is left as one line break, so the literal is kept if and only if it has no
such run (`extractDirectives_template`).
-/

namespace WidgetPipeline

/-! ## A text without its empty lines -/

namespace Text

/-- The text without the line breaks that stand directly in front of a line break. -/
def squeezed : List Char → List Char
  | [] => []
  | c :: cs => if c = '\n' ∧ cs.head? = some '\n' then squeezed cs else c :: squeezed cs

variable {cs ds line : List Char}

theorem squeezed_append (h : ds.head? ≠ some '\n') (cs : List Char) :
    squeezed (cs ++ ds) = squeezed cs ++ squeezed ds := by
  induction cs with
  | nil => rfl
  | cons c cs ih =>
    have hhead : (cs ++ ds).head? = some '\n' ↔ cs.head? = some '\n' := by
      cases cs with
      | nil => simpa using h
      | cons d cs => rfl
    simp only [List.cons_append, squeezed, hhead, ih]
    split
    · rfl
    · rfl

theorem squeezed_append_of_not_mem (h : '\n' ∉ line) (cs : List Char) :
    squeezed (line ++ cs) = line ++ squeezed cs := by
  induction line with
  | nil => rfl
  | cons c line ih =>
    simp only [List.mem_cons, not_or] at h
    rw [List.cons_append, squeezed, if_neg fun hbreak => h.1 hbreak.1.symm, ih h.2]
    rfl

theorem squeezed_of_not_mem (h : '\n' ∉ line) : squeezed line = line := by
  have happend := squeezed_append_of_not_mem h []
  rwa [squeezed, List.append_nil] at happend

/-- Behind a line break the line breaks that follow it are gone. -/
theorem squeezed_break (cs : List Char) :
    squeezed ('\n' :: cs) = '\n' :: squeezed (cs.dropWhile (· = '\n')) := by
  induction cs with
  | nil => rfl
  | cons c cs ih =>
    by_cases hc : c = '\n'
    · subst hc
      rw [squeezed, if_pos ⟨rfl, rfl⟩, ih]
      simp
    · simp [squeezed, hc]

theorem length_squeezed_le (cs : List Char) : (squeezed cs).length ≤ cs.length := by
  induction cs with
  | nil => exact Nat.le_refl _
  | cons c cs ih =>
    rw [squeezed, List.length_cons]
    split
    · omega
    · rw [List.length_cons]
      omega

/-- Nothing is squeezed out of a text if and only if no two line breaks in it are adjacent. -/
theorem squeezed_eq_self_iff : squeezed cs = cs ↔ ¬ ['\n', '\n'] <:+: cs := by
  induction cs with
  | nil => simp [squeezed]
  | cons c cs ih =>
    have hprefix : ['\n', '\n'] <+: c :: cs ↔ c = '\n' ∧ cs.head? = some '\n' := by
      cases cs with
      | nil => simp
      | cons d cs => simp [eq_comm]
    rw [List.infix_cons_iff, hprefix, squeezed]
    split
    · rename_i hbreak
      have hlength := length_squeezed_le cs
      constructor
      · intro heq
        rw [heq, List.length_cons] at hlength
        omega
      · intro hnone
        exact absurd (.inl hbreak) hnone
    · rename_i hbreak
      simp [hbreak, ih]

end Text

/-! ## The literal -/

namespace Script

/-- Text of a template literal as it stands, without escapes and interpolations. -/
def Template.ofText : List Char → Template
  | [] => .nil
  | c :: cs => .piece (.plain c) (ofText cs)

/-- The character has no special meaning in a template literal. -/
def PlainInTemplate (c : Char) : Prop := c ≠ '\x60' ∧ c ≠ '\\' ∧ c ≠ '$'

instance (c : Char) : Decidable (PlainInTemplate c) := inferInstanceAs (Decidable (_ ∧ _))

theorem Template.text_ofText (cs : List Char) : (ofText cs).text = cs := by
  induction cs with
  | nil => rfl
  | cons c cs ih => simp [ofText, text, Piece.text, ih]

theorem Template.comments_ofText (place : Position) (cs : List Char) :
    (ofText cs).comments place = [] := by
  induction cs generalizing place with
  | nil => rfl
  | cons c cs ih => exact ih _

theorem Template.fits_ofText {cs : List Char} (plain : ∀ c ∈ cs, PlainInTemplate c)
    (ahead : List Char) : (ofText cs).Fits ahead := by
  induction cs with
  | nil => trivial
  | cons c cs ih =>
    obtain ⟨hclose, hescape, hdollar⟩ := plain c List.mem_cons_self
    exact ⟨⟨hclose, hescape, fun heq => absurd heq hdollar⟩,
      ih fun d hmem => plain d (List.mem_cons_of_mem _ hmem)⟩

/-- A constant whose value is a template literal. -/
def constantCode (text : List Char) : Code :=
  .token (.word 'c' "onst".toList) <| .token (.blank ' ') <| .token (.word 't' []) <|
  .token (.blank ' ') <| .token (.punctuation '=') <| .token (.blank ' ') <|
  .template (.ofText text) <| .token (.punctuation ';') .nil

theorem text_constantCode (text : List Char) :
    (constantCode text).text = "const t = \x60".toList ++ (text ++ "\x60;".toList) := by
  simp [constantCode, Code.text, Token.text, Template.text_ofText]

theorem comments_constantCode (text : List Char) : (constantCode text).comments {} = [] := by
  simp [constantCode, Code.comments, Token.comments, Template.comments_ofText]

theorem fits_constantCode {text : List Char} (plain : ∀ c ∈ text, PlainInTemplate c) :
    (constantCode text).Fits true [] := by
  have hspace : ∀ ahead, NoWordAhead (' ' :: ahead) := by
    intro ahead c hmem
    obtain rfl : ' ' = c := by simpa using hmem
    decide
  have hblank : ∀ b ahead, (Token.blank ' ').Fits b ahead := by
    intro b ahead
    have hspace : Text.isBlank ' ' = true := by decide
    exact hspace
  have hequals : ∀ b ahead, (Token.punctuation '=').Fits b ahead :=
    fun _ _ => ⟨by decide, by decide, by decide⟩
  exact ⟨⟨by decide, hspace _⟩, hblank _ _, ⟨by decide, hspace _⟩, hblank _ _, hequals _ _,
    hblank _ _, Template.fits_ofText plain _, by decide⟩

end Script

namespace Extraction

open Script

/-- Without its empty lines a text has no line break at the front and no two in a row. -/
theorem joinNonempty_lines {cs : List Char} (hlast : cs.getLast? ≠ some '\n') :
    joinNonempty (Text.lines cs) = Text.squeezed (cs.dropWhile (· = '\n')) := by
  induction cs using Text.lines_induction with
  | last line hline =>
    rw [Text.lines_of_not_mem hline]
    cases line with
    | nil => rfl
    | cons c cs =>
      have hc : c ≠ '\n' := by
        rintro rfl
        simp at hline
      have hdrop : (c :: cs).dropWhile (· = '\n') = c :: cs := by simp [hc]
      rw [hdrop, Text.squeezed_of_not_mem hline]
      simp [joinNonempty, List.intercalate]
  | line line rest hline ih =>
    -- The last character, which is no line break, is on a line behind this one.
    obtain ⟨front, last, rfl⟩ : ∃ front last, rest = front ++ [last] := by
      rcases List.eq_nil_or_concat rest with rfl | ⟨front, last, rfl⟩
      · simp at hlast
      · exact ⟨front, last, List.concat_eq_append⟩
    rw [← List.cons_append, ← List.append_assoc, List.getLast?_concat] at hlast
    have hbreak : last ≠ '\n' := by simpa using hlast
    have hrest := ih (by simpa using hbreak)
    rw [Text.lines_append_break hline]
    cases line with
    | nil =>
      rw [joinNonempty_cons_nil, hrest]
      simp
    | cons c cs =>
      obtain ⟨other, hother, hmem⟩ := Text.exists_line front [] hbreak
      have hc : c ≠ '\n' := by
        rintro rfl
        simp at hline
      have hdrop : (c :: cs ++ '\n' :: (front ++ [last])).dropWhile (· = '\n') =
          c :: cs ++ '\n' :: (front ++ [last]) := by
        simp [hc]
      rw [joinNonempty_cons (List.cons_ne_nil c cs)
          ⟨other, List.mem_of_getElem? hother, List.ne_nil_of_mem hmem⟩,
        hrest, hdrop, Text.squeezed_append_of_not_mem hline, Text.squeezed_break]

/-- What is left of a text from which no directive is taken. -/
theorem ofComments_of_no_directive {comments : CommentMap} {code : String}
    (h : comments.values.filterMap Directive.ofComment? = []) :
    ofComments comments code =
      { code := String.ofList (joinNonempty (Text.lines code.toList)), directives := [] } := by
  rw [ofComments, h]
  rfl

/-- The source of a constant whose value is a template literal. -/
def constantSource (text : String) : String := "const t = \x60" ++ text ++ "\x60;"

theorem toList_constantSource (text : String) :
    (constantSource text).toList = "const t = \x60".toList ++ (text.toList ++ "\x60;".toList) := by
  simp [constantSource]

variable {text : String}

theorem scanComments_constantSource (plain : ∀ c ∈ text.toList, PlainInTemplate c) :
    scanComments (constantSource text) = .ok ∅ := by
  have hsource : (constantSource text).toList = (constantCode text.toList).text := by
    rw [toList_constantSource, text_constantCode]
  rw [scanComments_eq_ok_iff, hsource, Code.scanFrom_text (fits_constantCode plain),
    comments_constantCode]
  rfl

theorem joinNonempty_constantSource (text : String) :
    joinNonempty (Text.lines (constantSource text).toList) =
      (constantSource (String.ofList (Text.squeezed text.toList))).toList := by
  have hlast : (constantSource text).toList.getLast? ≠ some '\n' := by
    have hend : "\x60;".toList.getLast? = some ';' := by decide
    rw [toList_constantSource, ← List.append_assoc, List.getLast?_append, hend]
    simp
  have hdrop :
      (constantSource text).toList.dropWhile (· = '\n') = (constantSource text).toList := by
    simp [toList_constantSource]
  rw [joinNonempty_lines hlast, hdrop, toList_constantSource (String.ofList _),
    toList_constantSource, String.toList_ofList (l := Text.squeezed text.toList),
    Text.squeezed_append_of_not_mem (by decide),
    Text.squeezed_append (by decide),
    Text.squeezed_of_not_mem (by decide : '\n' ∉ "\x60;".toList)]

/-- From a constant whose value is a template literal nothing is extracted, and of each run of line
breaks in the literal one is left. The source is kept if and only if there is no such run. -/
theorem extractDirectives_template (plain : ∀ c ∈ text.toList, PlainInTemplate c) :
    scanComments (constantSource text) = .ok ∅ ∧
      extractDirectives scanComments (constantSource text) =
        .ok { code := constantSource (String.ofList (Text.squeezed text.toList)),
              directives := [] } ∧
      (extractDirectives scanComments (constantSource text) =
          .ok { code := constantSource text, directives := [] } ↔
        ¬ ['\n', '\n'] <:+: text.toList) := by
  have hscan := scanComments_constantSource plain
  have hextract : extractDirectives scanComments (constantSource text) =
      .ok { code := constantSource (String.ofList (Text.squeezed text.toList)),
            directives := [] } := by
    refine extractDirectives_eq_ok_iff.2 ⟨∅, hscan, ?_⟩
    rw [ofComments_of_no_directive rfl, joinNonempty_constantSource, String.ofList_toList]
  refine ⟨hscan, hextract, ?_⟩
  rw [hextract, ← Text.squeezed_eq_self_iff]
  simp [constantSource, ← String.toList_inj]

theorem extractDirectives_template_paragraphs :
    (∀ c ∈ "a\n\n\nb\n".toList, PlainInTemplate c) ∧
      extractDirectives scanComments (constantSource "a\n\n\nb\n") =
        .ok { code := constantSource "a\nb\n", directives := [] } := by
  have plain : ∀ c ∈ "a\n\n\nb\n".toList, PlainInTemplate c := by decide
  obtain ⟨-, hextract, -⟩ := extractDirectives_template plain
  have hsqueezed : Text.squeezed "a\n\n\nb\n".toList = "a\nb\n".toList := by decide
  rw [hsqueezed] at hextract
  exact ⟨plain, hextract⟩

/-- Extraction does not keep every template literal, also where there is no comment. -/
theorem extractDirectives_template_not_kept :
    ¬ ∀ text, (∀ c ∈ text.toList, PlainInTemplate c) →
      scanComments (constantSource text) = .ok ∅ ∧
        extractDirectives scanComments (constantSource text) =
          .ok { code := constantSource text, directives := [] } := by
  intro h
  have hkept := (h "a\n\nb" (by decide)).2
  have hlost : extractDirectives scanComments (constantSource "a\n\nb") =
      .ok { code := constantSource "a\nb", directives := [] } :=
    eq_ok_of_toOption (by decide +kernel)
  rw [hlost] at hkept
  simp [constantSource] at hkept

end Extraction

end WidgetPipeline
