import WidgetPipeline.Proofs.Script.Nesting
import WidgetPipeline.Proofs.Script.Span
import WidgetPipeline.Proofs.Script.Token
import WidgetPipeline.Proofs.Text.Runs

/-!
# A tree of tokens is read back from its text

The scan steps over the text of a fitting tree token by token and finds the comments of the tree and
no others (`Code.steps`, by induction on the tree together with `Template.steps`). Behind a tree the
scan has the same constructs open as in front of it, so the induction carries the frames unchanged.
-/

namespace WidgetPipeline.Script

/-! ## Bodies of literals -/

theorem splitQuoted_pieces {mark : Char} (hmark : IsQuotationMark mark) {body : List Piece}
    (fits : ∀ piece ∈ body, piece.FitsQuoted mark) (rest : List Char) :
    splitQuoted mark (body.flatMap Piece.text ++ mark :: rest) =
      (body.flatMap Piece.text, true, rest) := by
  induction body with
  | nil =>
    have hescape : mark ≠ '\\' := by rintro rfl; revert hmark; simp [IsQuotationMark]
    have hbreak : mark ≠ '\n' := by rintro rfl; revert hmark; simp [IsQuotationMark]
    simp [splitQuoted_plain mark hescape hbreak]
  | cons head tail ih =>
    have htail := ih fun piece hmem => fits piece (List.mem_cons_of_mem _ hmem)
    rw [List.flatMap_cons, List.append_assoc]
    cases head with
    | plain c =>
      obtain ⟨hmark, hescape, hbreak⟩ := fits (.plain c) List.mem_cons_self
      simp [Piece.text, splitQuoted_plain mark hescape hbreak, hmark, htail]
    | escaped c => simp [Piece.text, splitQuoted_escaped, htail]

theorem splitQuoted_unclosed {mark : Char} {body ahead : List Char}
    (fits : ∀ c ∈ body, c ≠ mark ∧ c ≠ '\\' ∧ c ≠ '\n') (ends : AtLineEnd ahead) :
    splitQuoted mark (body ++ ahead) = (body, false, ahead) := by
  induction body with
  | nil =>
    rcases ends with rfl | ⟨rest, rfl⟩
    · rfl
    · rfl
  | cons c cs ih =>
    obtain ⟨hmark, hescape, hbreak⟩ := fits c List.mem_cons_self
    have htail := ih fun d hmem => fits d (List.mem_cons_of_mem _ hmem)
    simp [splitQuoted_plain mark hescape hbreak, hmark, htail]

/-- A character class hides everything up to the bracket that closes it. -/
theorem splitRegexBody_members {members : List Piece} (fits : ∀ member ∈ members, member.FitsClass)
    (rest : List Char) :
    splitRegexBody true (members.flatMap Piece.text ++ ']' :: rest) =
      (splitRegexBody false rest).map fun (body, after) =>
        (members.flatMap Piece.text ++ ']' :: body, after) := by
  induction members with
  | nil => simp [splitRegexBody]
  | cons head tail ih =>
    have htail := ih fun member hmem => fits member (List.mem_cons_of_mem _ hmem)
    have hfits := fits head List.mem_cons_self
    rw [List.flatMap_cons, List.append_assoc]
    cases head with
    | escaped c =>
      simp only [Piece.text, List.cons_append, List.nil_append, splitRegexBody_escaped true hfits,
        htail, Option.map_map]
      rfl
    | plain c =>
      obtain ⟨hclose, hescape, hbreak⟩ := hfits
      by_cases hopen : c = '['
      · subst hopen
        simp only [Piece.text, List.cons_append, List.nil_append, splitRegexBody, htail,
          Option.map_map]
        rfl
      · simp only [Piece.text, List.cons_append, List.nil_append,
          splitRegexBody_plain true hescape hbreak hopen hclose, htail, Option.map_map]
        simp [Function.comp_def]

theorem splitRegexBody_parts {body : List RegexPart} (fits : ∀ part ∈ body, part.Fits)
    (rest : List Char) :
    splitRegexBody false (body.flatMap RegexPart.text ++ '/' :: rest) =
      some (body.flatMap RegexPart.text, rest) := by
  induction body with
  | nil => simp [splitRegexBody]
  | cons head tail ih =>
    have htail := ih fun part hmem => fits part (List.mem_cons_of_mem _ hmem)
    have hfits := fits head List.mem_cons_self
    rw [List.flatMap_cons, List.append_assoc]
    cases head with
    | piece piece =>
      cases piece with
      | escaped c => simp [RegexPart.text, Piece.text, splitRegexBody_escaped false hfits, htail]
      | plain c =>
        obtain ⟨hslash, hopen, hescape, hbreak⟩ := hfits
        by_cases hclose : c = ']'
        · subst hclose
          simp [RegexPart.text, Piece.text, splitRegexBody, htail]
        · simp [RegexPart.text, Piece.text,
            splitRegexBody_plain false hescape hbreak hopen hclose, hslash, htail]
    | characterClass members =>
      have hmembers := splitRegexBody_members hfits
        (tail.flatMap RegexPart.text ++ '/' :: rest)
      simp only [RegexPart.text, List.cons_append, List.append_assoc, List.nil_append,
        splitRegexBody, hmembers, htail]
      simp

/-- The text of a regular expression literal does not look like the start of a comment. -/
theorem head_regexBody {body : List RegexPart} (hne : body ≠ [])
    (hstar : body.head? ≠ some (.piece (.plain '*'))) (fits : ∀ part ∈ body, part.Fits) :
    ∃ c cs, body.flatMap RegexPart.text = c :: cs ∧ c ≠ '/' ∧ c ≠ '*' := by
  match body, hne with
  | head :: tail, _ =>
    have hfits := fits head List.mem_cons_self
    rw [List.flatMap_cons]
    match head, hfits with
    | .piece (.plain c), hfits =>
      have hc : c ≠ '*' := by rintro rfl; simp at hstar
      exact ⟨c, _, rfl, hfits.1, hc⟩
    | .piece (.escaped c), _ => exact ⟨'\\', _, rfl, by decide, by decide⟩
    | .characterClass members, _ => exact ⟨'[', _, rfl, by decide, by decide⟩

/-! ## Single tokens -/

namespace Lexeme

variable {operandExpected : Bool} {ahead : List Char}

theorem readCode?_word {first : Char} {rest : List Char}
    (h : ∀ c ∈ first :: rest, isIdentPart c = true) (hahead : NoWordAhead ahead) :
    readCode? operandExpected first (rest ++ ahead) = some (.word first rest, ahead) := by
  have hfirst := h first List.mem_cons_self
  have hrest : ∀ c ∈ rest, isIdentPart c = true := fun c hmem => h c (List.mem_cons_of_mem _ hmem)
  have hne : ∀ d, isIdentPart d = false → first ≠ d := by
    rintro d hd rfl
    simp [hfirst] at hd
  simp [readCode?, hfirst, Text.takeWhile_run hrest hahead, Text.dropWhile_run hrest hahead,
    hne '/' (by decide), hne '"' (by decide), hne '\'' (by decide), hne '\x60' (by decide),
    hne '{' (by decide), hne '}' (by decide)]

theorem readCode?_punctuation {c : Char} (hblank : Text.isBlank c = false)
    (hword : isIdentPart c = false) (hplain : c ∉ ['/', '"', '\'', '\x60', '{', '}']) :
    readCode? operandExpected c ahead = some (.symbol c, ahead) := by
  simp only [List.mem_cons, List.not_mem_nil, or_false, not_or] at hplain
  simp [readCode?, hblank, hword, hplain]

theorem readCode?_division (hslash : ahead.head? ≠ some '/') (hstar : ahead.head? ≠ some '*') :
    readCode? false '/' ahead = some (.symbol '/', ahead) := by
  rw [readCode?, if_pos rfl]
  unfold readSlash?
  split
  · simp at hslash
  · simp at hstar
  · rfl

theorem readCode?_quoted {mark : Char} {body : List Piece} (hmark : IsQuotationMark mark)
    (fits : ∀ piece ∈ body, piece.FitsQuoted mark) :
    readCode? operandExpected mark (body.flatMap Piece.text ++ mark :: ahead) =
      some (.quoted mark (body.flatMap Piece.text) true, ahead) := by
  have hslash : mark ≠ '/' := by rintro rfl; simp [IsQuotationMark] at hmark
  have hquote : mark = '"' ∨ mark = '\'' := hmark
  simp [readCode?, hslash, hquote, splitQuoted_pieces hmark fits]

theorem readCode?_strayQuote {mark : Char} {body : List Char} (hmark : IsQuotationMark mark)
    (fits : ∀ c ∈ body, c ≠ mark ∧ c ≠ '\\' ∧ c ≠ '\n') (ends : AtLineEnd ahead) :
    readCode? operandExpected mark (body ++ ahead) = some (.quoted mark body false, ahead) := by
  have hslash : mark ≠ '/' := by rintro rfl; simp [IsQuotationMark] at hmark
  have hquote : mark = '"' ∨ mark = '\'' := hmark
  simp [readCode?, hslash, hquote, splitQuoted_unclosed fits ends]

theorem readCode?_regex {body : List RegexPart} {flags : List Char} (hne : body ≠ [])
    (hstar : body.head? ≠ some (.piece (.plain '*'))) (fits : ∀ part ∈ body, part.Fits)
    (hflags : ∀ c ∈ flags, isIdentPart c = true) (hahead : NoWordAhead ahead) :
    readCode? true '/' (body.flatMap RegexPart.text ++ '/' :: (flags ++ ahead)) =
      some (.regex (body.flatMap RegexPart.text) flags, ahead) := by
  obtain ⟨c, cs, htext, hslash, hstar⟩ := head_regexBody hne hstar fits
  have hsplit := splitRegexBody_parts fits (flags ++ ahead)
  rw [readCode?, if_pos rfl]
  rw [htext, List.cons_append] at hsplit ⊢
  unfold readSlash?
  split
  · rename_i heq
    exact absurd (List.cons.inj heq).1 hslash
  · rename_i heq
    exact absurd (List.cons.inj heq).1 hstar
  · simp [hsplit, Text.takeWhile_run hflags hahead, Text.dropWhile_run hflags hahead]

theorem readCode?_lineComment {body : List Char} (single : '\n' ∉ body) (ends : AtLineEnd ahead) :
    readCode? operandExpected '/' ('/' :: (body ++ ahead)) = some (.lineComment body, ahead) := by
  have hbody : ∀ c ∈ body, decide (c ≠ '\n') = true := by
    intro c hmem
    exact decide_eq_true fun heq => single (heq ▸ hmem)
  rw [readCode?, if_pos rfl]
  simp only [readSlash?, List.takeWhile_append_of_pos hbody, List.dropWhile_append_of_pos hbody]
  rcases ends with rfl | ⟨rest, rfl⟩
  · simp
  · simp

theorem readCode?_blockComment {inner : List Char}
    (fits : ∀ earlier later, inner ≠ earlier ++ '*' :: '/' :: later) :
    readCode? operandExpected '/' ('*' :: (inner ++ '*' :: '/' :: ahead)) =
      some (.blockComment inner, ahead) := by
  have hsplit : splitAtBlockEnd (inner ++ '*' :: '/' :: ahead) = some (inner, ahead) := by
    rw [splitAtBlockEnd_eq_some_iff]
    refine ⟨rfl, ?_⟩
    intro earlier later hcut
    rcases List.append_eq_append_iff.1 hcut with ⟨more, rfl, _⟩ | ⟨more, rfl, hmore⟩
    · simp
    · match more, hmore with
      | [], _ => simp
      | [c], hmore => simp at hmore
      | c :: d :: rest, hmore =>
        simp only [List.cons_append, List.cons.injEq] at hmore
        exact absurd (by rw [← hmore.1, ← hmore.2.1]) (fits earlier rest)
  rw [readCode?, if_pos rfl]
  simp [readSlash?, hsplit]

end Lexeme

variable {state : State} {ahead : List Char}

theorem Steps.of_readCode {c : Char} {cs rest : List Char} {lexeme : Lexeme}
    (outside : state.inTemplate = false)
    (read : Lexeme.readCode? state.operandExpected c cs = some (lexeme, rest)) :
    Steps state (c :: cs) (state.found lexeme) (state.after lexeme) rest :=
  .one (by rw [Lexeme.read?, outside]; exact read)

theorem Steps.of_readTemplate {c : Char} {cs rest : List Char} {lexeme : Lexeme}
    (inside : state.inTemplate = true) (read : Lexeme.readTemplate c cs = (lexeme, rest)) :
    Steps state (c :: cs) (state.found lexeme) (state.after lexeme) rest :=
  .one (by rw [Lexeme.read?, inside, if_pos rfl, read])

/-- The state behind a text whose braces and backquotes are balanced. -/
def State.behind (state : State) (text : List Char) (operandExpected : Bool) : State where
  position := state.position.advance text
  frames := state.frames
  operandExpected := operandExpected

/-- The scan steps over a fitting token and finds the comment that it is, if it is one. -/
theorem Token.steps {token : Token} (outside : state.inTemplate = false)
    (fits : token.Fits state.operandExpected ahead) :
    Steps state (token.text ++ ahead) (token.comments state.position)
      (state.behind token.text (token.operandExpectedAfter state.operandExpected)) ahead := by
  have hstep : ∀ {c cs lexeme}, token.text ++ ahead = c :: cs →
      Lexeme.readCode? state.operandExpected c cs = some (lexeme, ahead) →
      state.found lexeme = token.comments state.position →
      state.after lexeme =
        state.behind token.text (token.operandExpectedAfter state.operandExpected) →
      Steps state (token.text ++ ahead) (token.comments state.position)
        (state.behind token.text (token.operandExpectedAfter state.operandExpected)) ahead := by
    intro c cs lexeme htext hread hfound hafter
    rw [htext, ← hfound, ← hafter]
    exact .of_readCode outside hread
  cases token with
  | blank c => exact hstep rfl (Lexeme.readCode?_blank fits) rfl rfl
  | word first rest => exact hstep rfl (Lexeme.readCode?_word fits.1 fits.2) rfl rfl
  | punctuation c =>
    obtain ⟨hblank, hword, hplain⟩ := fits
    have hslash : c ≠ '/' := by rintro rfl; simp at hplain
    refine hstep rfl (Lexeme.readCode?_punctuation hblank hword hplain) rfl ?_
    simp [State.after, State.behind, State.framesAfter, State.operandExpectedAfter,
      operandExpectedAfter, text, Lexeme.text, hslash]
  | division =>
    obtain ⟨hoperator, hslash, hstar⟩ := fits
    have hread := Lexeme.readCode?_division hslash hstar
    rw [← hoperator] at hread
    refine hstep rfl hread rfl ?_
    simp [State.after, State.behind, State.framesAfter, State.operandExpectedAfter,
      operandExpectedAfter, text, Lexeme.text, hoperator]
  | quoted mark body =>
    refine hstep (by simp [text]) (Lexeme.readCode?_quoted fits.1 fits.2) rfl ?_
    simp [State.after, State.behind, State.framesAfter, State.operandExpectedAfter,
      operandExpectedAfter, text, Lexeme.text]
  | strayQuote mark body =>
    refine hstep rfl (Lexeme.readCode?_strayQuote fits.1 fits.2.1 fits.2.2) rfl ?_
    simp [State.after, State.behind, State.framesAfter, State.operandExpectedAfter,
      operandExpectedAfter, text, Lexeme.text]
  | regex body flags =>
    obtain ⟨hoperand, hne, hstar, hbody, hflags, hahead⟩ := fits
    have hread := Lexeme.readCode?_regex hne hstar hbody hflags hahead
    rw [← hoperand] at hread
    exact hstep (by simp [text]) hread rfl rfl
  | lineComment body =>
    exact hstep rfl (Lexeme.readCode?_lineComment fits.1 fits.2) rfl rfl
  | blockComment inner =>
    exact hstep (by simp [text]) (Lexeme.readCode?_blockComment fits) rfl rfl

/-! ## Trees -/

@[simp] theorem State.behind_inTemplate (text : List Char) (operandExpected : Bool) :
    (state.behind text operandExpected).inTemplate = state.inTemplate := rfl

theorem State.behind_behind (text more : List Char) (operandExpected operandExpected' : Bool) :
    (state.behind text operandExpected).behind more operandExpected' =
      state.behind (text ++ more) operandExpected' := by
  simp [behind]

theorem Steps.openBrace (outside : state.inTemplate = false) (ahead : List Char) :
    Steps state ('{' :: ahead) [] (state.after .openBrace) ahead := by
  have read : Lexeme.readCode? state.operandExpected '{' ahead = some (.openBrace, ahead) := rfl
  exact of_readCode outside read

theorem Steps.closeBrace (outside : state.inTemplate = false) (ahead : List Char) :
    Steps state ('}' :: ahead) [] (state.after .closeBrace) ahead := by
  have read : Lexeme.readCode? state.operandExpected '}' ahead = some (.closeBrace, ahead) := rfl
  exact of_readCode outside read

theorem Steps.openTemplate (outside : state.inTemplate = false) (ahead : List Char) :
    Steps state ('\x60' :: ahead) [] (state.after .openTemplate) ahead := by
  have read : Lexeme.readCode? state.operandExpected '\x60' ahead = some (.openTemplate, ahead) :=
    rfl
  exact of_readCode outside read

theorem Steps.openInterpolation (within : state.inTemplate = true) (ahead : List Char) :
    Steps state ('$' :: '{' :: ahead) [] (state.after .openInterpolation) ahead :=
  of_readTemplate within rfl

theorem State.inTemplate_openBrace (outside : state.inTemplate = false) :
    (state.after .openBrace).inTemplate = false := by
  simp only [inTemplate, after, framesAfter]
  rcases frames_cases outside with h | ⟨depth, frames, h⟩
  · rw [h]
    rfl
  · rw [h]
    rfl

/-- A group leaves the frames as they were: its closing brace takes back what the opening one did.
-/
theorem Steps.closeGroup (outside : state.inTemplate = false) (text ahead : List Char) (b : Bool) :
    Steps ((state.after .openBrace).behind text b) ('}' :: ahead) []
      (state.behind ('{' :: (text ++ ['}'])) false) ahead := by
  have hframes : State.framesAfterCloseBrace (State.framesAfterOpenBrace state.frames) =
      state.frames := by
    rcases State.frames_cases outside with h | ⟨depth, frames, h⟩
    · rw [h]
      rfl
    · rw [h]
      rfl
  have hafter : ((state.after .openBrace).behind text b).after .closeBrace =
      state.behind ('{' :: (text ++ ['}'])) false := by
    simp only [State.after, State.behind, State.framesAfter, State.operandExpectedAfter,
      Lexeme.text, hframes, ← Position.advance_append]
    rfl
  rw [← hafter]
  exact closeBrace ((State.behind_inTemplate _ _).trans (State.inTemplate_openBrace outside)) ahead

/-- An interpolation in a template literal leaves the frames as they were. -/
theorem Steps.closeInterpolation (state : State) (text ahead : List Char) (b : Bool) :
    Steps ((state.after .openInterpolation).behind text b) ('}' :: ahead) []
      (state.behind ('$' :: '{' :: (text ++ ['}'])) false) ahead := by
  have hafter : ((state.after .openInterpolation).behind text b).after .closeBrace =
      state.behind ('$' :: '{' :: (text ++ ['}'])) false := by
    simp only [State.after, State.behind, State.framesAfter, State.operandExpectedAfter,
      Lexeme.text, State.framesAfterCloseBrace, ← Position.advance_append]
    rfl
  rw [← hafter]
  exact closeBrace rfl ahead

theorem Steps.closeTemplate (state : State) (text ahead : List Char) (b : Bool) :
    Steps ((state.after .openTemplate).behind text b) ('\x60' :: ahead) []
      (state.behind ('\x60' :: (text ++ ['\x60'])) false) ahead := by
  have hafter : ((state.after .openTemplate).behind text b).after .closeTemplate =
      state.behind ('\x60' :: (text ++ ['\x60'])) false := by
    simp only [State.after, State.behind, State.framesAfter, State.operandExpectedAfter,
      Lexeme.text, List.tail_cons, ← Position.advance_append]
    rfl
  rw [← hafter]
  exact of_readTemplate rfl rfl

/-- A piece of a template literal is stepped over without a comment. -/
theorem Piece.steps {piece : Piece} (inside : state.inTemplate = true)
    (fits : piece.FitsTemplate ahead) :
    Steps state (piece.text ++ ahead) [] (state.behind piece.text state.operandExpected) ahead := by
  cases piece with
  | escaped c => exact .of_readTemplate inside rfl
  | plain c =>
    obtain ⟨hclose, hescape, hopen⟩ := fits
    have hread : Lexeme.readTemplate c ahead = (.templateText c, ahead) := by
      unfold Lexeme.readTemplate
      split
      · simp at hopen
      · exact absurd rfl hescape
      · exact absurd rfl hescape
      · exact absurd rfl hclose
      · rfl
    exact .of_readTemplate inside hread

mutual

/-- The scan steps over fitting code, finds the comments in it in their order and places, and has
the same constructs open behind it as in front of it. -/
theorem Code.steps (code : Code) (state : State) (ahead : List Char)
    (outside : state.inTemplate = false) (fits : code.Fits state.operandExpected ahead) :
    Steps state (code.text ++ ahead) (code.comments state.position)
      (state.behind code.text (code.operandExpectedAfter state.operandExpected)) ahead := by
  match code with
  | .nil => exact .refl state ahead
  | .token head tail =>
    have hhead := Token.steps outside fits.1
    have htail := Code.steps tail (state.behind head.text _) ahead outside fits.2
    rw [State.behind_behind] at htail
    rw [Code.text, List.append_assoc]
    exact hhead.trans htail
  | .group inside tail =>
    have hopen := Steps.openBrace outside (inside.text ++ '}' :: (tail.text ++ ahead))
    have hinside := Code.steps inside (state.after .openBrace) _
      (State.inTemplate_openBrace outside) fits.1
    have hclose := Steps.closeGroup outside inside.text (tail.text ++ ahead)
      (inside.operandExpectedAfter true)
    have htail := Code.steps tail (state.behind ('{' :: (inside.text ++ ['}'])) false) ahead outside
      fits.2
    have htext : '{' :: (inside.text ++ ['}']) ++ tail.text = (Code.group inside tail).text := by
      simp [Code.text]
    rw [State.behind_behind] at htail
    rw [← htext, List.append_assoc, List.cons_append, List.append_assoc]
    exact hopen.trans (hinside.trans (hclose.trans htail))
  | .template inside tail =>
    have hopen := Steps.openTemplate outside (inside.text ++ '\x60' :: (tail.text ++ ahead))
    obtain ⟨b, hinside⟩ := Template.steps inside (state.after .openTemplate) _ rfl fits.1
    have hclose := Steps.closeTemplate state inside.text (tail.text ++ ahead) b
    have htail := Code.steps tail (state.behind ('\x60' :: (inside.text ++ ['\x60'])) false) ahead
      outside fits.2
    have htext : '\x60' :: (inside.text ++ ['\x60']) ++ tail.text =
        (Code.template inside tail).text := by
      simp [Code.text]
    rw [State.behind_behind] at htail
    rw [← htext, List.append_assoc, List.cons_append, List.append_assoc]
    exact hopen.trans (hinside.trans (hclose.trans htail))

theorem Template.steps (template : Template) (state : State) (ahead : List Char)
    (within : state.inTemplate = true) (fits : template.Fits ahead) :
    ∃ b, Steps state (template.text ++ ahead) (template.comments state.position)
      (state.behind template.text b) ahead := by
  match template with
  | .nil => exact ⟨state.operandExpected, .refl state ahead⟩
  | .piece head tail =>
    have hhead := Piece.steps within fits.1
    obtain ⟨b, htail⟩ := Template.steps tail (state.behind head.text state.operandExpected) ahead
      within fits.2
    rw [State.behind_behind] at htail
    refine ⟨b, ?_⟩
    rw [Template.text, List.append_assoc]
    exact hhead.trans htail
  | .interpolation inside tail =>
    have hopen := Steps.openInterpolation within (inside.text ++ '}' :: (tail.text ++ ahead))
    have hinside := Code.steps inside (state.after .openInterpolation) _ rfl fits.1
    have hclose := Steps.closeInterpolation state inside.text (tail.text ++ ahead)
      (inside.operandExpectedAfter true)
    obtain ⟨b, htail⟩ := Template.steps tail
      (state.behind ('$' :: '{' :: (inside.text ++ ['}'])) false) ahead within fits.2
    have htext : '$' :: '{' :: (inside.text ++ ['}']) ++ tail.text =
        (Template.interpolation inside tail).text := by
      simp [Template.text]
    rw [State.behind_behind] at htail
    refine ⟨b, ?_⟩
    rw [← htext, List.append_assoc, List.cons_append, List.cons_append, List.append_assoc]
    exact hopen.trans (hinside.trans (hclose.trans htail))

end

theorem Code.scanFrom_text {code : Code} (fits : code.Fits true []) :
    scanFrom {} code.text = .ok (code.comments {}) := by
  have hsteps := Code.steps code {} [] rfl fits
  rw [List.append_nil] at hsteps
  exact scanFrom_eq_ok_iff.2 ⟨_, hsteps, rfl⟩

/-- Scanning the text of a fitting tree succeeds and finds the comments of the tree: all of them and
no others, in their order, under their offsets, with their contents and lines. -/
theorem scanComments_text (code : Code) (fits : code.Fits true []) :
    (scanComments (String.ofList code.text)).map OrderedMap.toList = .ok (code.comments {}) := by
  have hscan := Code.scanFrom_text fits
  have hascending := (scanFrom_inOrder hscan).ascending
  have hmap : scanComments (String.ofList code.text) = .ok ⟨code.comments {}, hascending⟩ := by
    rw [scanComments_eq_ok_iff, String.toList_ofList]
    exact hscan
  rw [hmap]
  rfl

/-- A regular expression with delimiters of comments in a class and behind a backslash, a division,
quoted text, and a template literal with a group, a comment and another template literal in it. -/
def sampleCode : Code :=
  .token (.punctuation '=') <|
  .token (.regex [.characterClass [.plain '/', .plain '*'], .piece (.escaped '/')] ['g']) <|
  .token .division <|
  .token (.word 'n' []) <|
  .token (.quoted '\'' [.escaped '\'', .plain '/', .plain '/']) <|
  .template
    (.piece (.plain '/') <| .piece (.plain '/') <| .piece (.escaped '\x60') <|
      .interpolation
        (.group
          (.token (.blockComment [' ', 'a', '\n', '*']) <|
            .template (.piece (.plain '$') <| .interpolation .nil .nil) .nil)
          (.token (.blank '\n') .nil))
        (.piece (.plain '*') .nil)) <|
  .token (.strayQuote '"' ['/', '/']) <|
  .token (.blank '\n') <|
  .token (.lineComment [' ', 'b', '*', '/']) .nil

theorem scanComments_text_sampleCode :
    sampleCode.Fits true [] ∧
      (scanComments (String.ofList sampleCode.text)).map OrderedMap.toList =
        .ok [(26, ⟨"a", 1, 2⟩), (49, ⟨"b*/", 4, 4⟩)] := by
  have hfits : sampleCode.Fits true [] := by decide +kernel
  have hcomments : sampleCode.comments {} = [(26, ⟨"a", 1, 2⟩), (49, ⟨"b*/", 4, 4⟩)] := by
    decide +kernel
  refine ⟨hfits, ?_⟩
  rw [scanComments_text sampleCode hfits, hcomments]

end WidgetPipeline.Script
