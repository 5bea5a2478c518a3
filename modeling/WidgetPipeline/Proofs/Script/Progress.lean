import WidgetPipeline.Proofs.Script.LineBreak
import WidgetPipeline.Proofs.Script.Nesting
import WidgetPipeline.Proofs.Script.Span

/-!
# The turns of a scan

A scan goes through a source in turns, each of which reads one lexeme. `Run` follows it from the
start of the source and remembers where it has been. Wherever it comes to, its place is a boundary
between characters, behind all places where it has been, and the open constructs alternate
(`Run.regular`). So it comes to an end, at the end of the source or at a block comment that nothing
closes (`exists_run`). At the end of the source it succeeds if nothing is open there. Otherwise it
fails at the innermost template literal, which has been open since the turn that opened it
(`scanComments_run`).
-/

namespace WidgetPipeline.Script

/-- The turns of a scan of the source lead from its start, through the `earlier` states with the
text ahead of them, to this state in front of the text that is left. -/
inductive Run (source : List Char) : List (State × List Char) → State → List Char → Prop
  | start : Run source [] {} source
  | turn {earlier : List (State × List Char)} {state : State} {c : Char} {cs rest : List Char}
      {lexeme : Lexeme} (run : Run source earlier state (c :: cs))
      (read : Lexeme.read? state c cs = some (lexeme, rest)) :
      Run source (earlier ++ [(state, c :: cs)]) (state.after lexeme) rest

/-- A block comment opens here that has no end. -/
def AtEndlessComment (state : State) (left : List Char) : Prop :=
  state.inTemplate = false ∧ ∃ inner, left = '/' :: '*' :: inner ∧
    ∀ before after, inner ≠ before ++ '*' :: '/' :: after

/-- One of the turns read the backquote that opened a template literal on the line, inside `outer`,
and this literal has been open in all states since. -/
def OpenSince (source : List Char) (earlier : List (State × List Char)) (line : Nat)
    (outer : List Frame) : Prop :=
  ∃ before opening cs since, earlier = before ++ (opening, '\x60' :: cs) :: since ∧
    Run source before opening ('\x60' :: cs) ∧ opening.inTemplate = false ∧
    opening.position.line = line ∧ opening.frames = outer ∧
    ∀ view ∈ since, .template line :: outer <:+ view.1.frames

/-- What holds wherever the turns of a scan lead to, and of the turn that follows. -/
structure Regular (source : String) (earlier : List (State × List Char)) (state : State)
    (left : List Char) : Prop where
  alternating : Alternating state.frames
  /-- The offset is that of a character or of the end. -/
  boundary : String.Pos.Raw.IsValid source ⟨state.position.offset⟩
  /-- What has been read and what is left make up the source. -/
  position : ∃ before, source.toList = before ++ left ∧ state.position = Position.advance {} before
  /-- Every turn moves the offset on. -/
  advances : ∀ view ∈ earlier, view.1.position.offset < state.position.offset
  bounded : earlier.length ≤ source.utf8ByteSize
  /-- A closing brace takes back one of the braces in an expression only if there is one, and
  nothing else takes back any. -/
  braces : ∀ c cs lexeme rest depth outer, left = c :: cs →
    Lexeme.read? state c cs = some (lexeme, rest) → state.frames = .interpolation depth :: outer →
    (lexeme = .closeBrace ∧ depth = 0 ∧ (state.after lexeme).frames = outer) ∨
      (lexeme = .closeBrace ∧ 1 ≤ depth ∧
        (state.after lexeme).frames = .interpolation (depth - 1) :: outer) ∨
      (lexeme ≠ .closeBrace ∧ ∃ opened more, (state.after lexeme).frames =
        opened ++ .interpolation (depth + more) :: outer)

theorem opensComment_iff {state : State} {left : List Char} :
    OpensComment state left ↔ AtEndlessComment state left := by
  constructor
  · rintro ⟨c, cs, rfl, hread⟩
    obtain ⟨hcode, rfl, inner, rfl, hsplit⟩ := Lexeme.of_read?_eq_none hread
    exact ⟨hcode, inner, rfl, splitAtBlockEnd_eq_none_iff.1 hsplit⟩
  · rintro ⟨hcode, inner, rfl, hendless⟩
    refine ⟨'/', '*' :: inner, rfl, ?_⟩
    rw [Lexeme.read?_blockComment hcode, splitAtBlockEnd_eq_none_iff.2 hendless]
    rfl

namespace Run

variable {source left : List Char} {earlier : List (State × List Char)} {state : State}

theorem steps (run : Run source earlier state left) :
    ∃ found, Steps {} source found state left := by
  induction run with
  | start => exact ⟨[], .refl _ _⟩
  | turn _ read ih =>
    obtain ⟨found, steps⟩ := ih
    exact ⟨_, steps.trans (.one read)⟩

theorem alternating (run : Run source earlier state left) : Alternating state.frames := by
  induction run with
  | start => exact .none
  | turn _ read ih => exact ih.after read

theorem advances (run : Run source earlier state left) :
    ∀ view ∈ earlier, view.1.position.offset < state.position.offset := by
  induction run with
  | start => simp
  | @turn earlier state c cs _ lexeme _ _ ih =>
    have hturn := state.offset_lt_after lexeme
    intro view hmem
    rcases List.mem_append.1 hmem with hmem | hmem
    · exact Nat.lt_trans (ih view hmem) hturn
    · obtain rfl := List.mem_singleton.1 hmem
      exact hturn

/-- Each turn takes up a byte at least. -/
theorem length_le_offset (run : Run source earlier state left) :
    earlier.length ≤ state.position.offset := by
  induction run with
  | start => exact Nat.le_refl 0
  | @turn _ state _ _ _ lexeme _ _ ih =>
    have hturn := state.offset_lt_after lexeme
    rw [List.length_append, List.length_singleton]
    omega

/-- A template literal that is open was opened by a turn and has not been closed since. -/
theorem openSince (run : Run source earlier state left) {line : Nat} {outer : List Frame}
    (hopen : .template line :: outer <:+ state.frames) : OpenSince source earlier line outer := by
  -- Not only of the innermost literal: when that is closed, the one around it is next.
  induction run with
  | start => simp at hopen
  | @turn earlier state c cs rest lexeme run read ih =>
    rcases State.suffix_of_suffix_after hopen with hbefore | ⟨rfl, hline, houter⟩
    · obtain ⟨before, opening, ds, since, rfl, hrun, hcode, hline, houter, hsince⟩ := ih hbefore
      refine ⟨before, opening, ds, since ++ [(state, c :: cs)], by simp, hrun, hcode, hline, houter,
        ?_⟩
      intro view hmem
      rcases List.mem_append.1 hmem with hmem | hmem
      · exact hsince view hmem
      · obtain rfl := List.mem_singleton.1 hmem
        exact hbefore
    · obtain ⟨rfl, -⟩ := List.cons.inj (Lexeme.read?_eq_some read)
      exact ⟨earlier, state, cs, [], rfl, run, (Lexeme.inLiteral_of_read? read).symm, hline, houter,
        by simp⟩

theorem regular {source : String} (run : Run source.toList earlier state left) :
    Regular source earlier state left := by
  obtain ⟨found, steps⟩ := run.steps
  obtain ⟨before, hsource, hposition⟩ := steps.exists_consumed
  have hboundary : String.Pos.Raw.IsValid source ⟨state.position.offset⟩ := by
    have hvalid := Text.isValid_byteLength before left
    rw [← hsource, String.ofList_toList] at hvalid
    rwa [hposition, Position.advance, Nat.zero_add]
  exact
    { alternating := run.alternating
      boundary := hboundary
      position := ⟨before, hsource, hposition⟩
      advances := run.advances
      bounded := Nat.le_trans run.length_le_offset hboundary.le_utf8ByteSize
      braces := fun _ _ _ _ _ _ _ read hframes => Lexeme.expression_after read hframes }

/-- A scan goes on from where its turns have led to. -/
theorem scanFrom_eq (run : Run source earlier state left) :
    ∃ found, scanFrom {} source = (scanFrom state left).map (found ++ ·) := by
  obtain ⟨found, steps⟩ := run.steps
  exact ⟨found, steps.scanFrom_eq⟩

end Run

/-- A scan comes to an end. -/
theorem exists_run (source : List Char) :
    ∃ earlier final left, Run source earlier final left ∧
      (left = [] ∨ AtEndlessComment final left) := by
  -- The induction is on the rest of the scan, whatever turns have led up to it.
  have hfrom : ∀ (state : State) (left : List Char) (earlier : List (State × List Char)),
      Run source earlier state left → ∃ earlier final left, Run source earlier final left ∧
        (left = [] ∨ AtEndlessComment final left) := by
    intro state left
    induction state, left using scan_induction with
    | nil state => exact fun earlier run => ⟨earlier, state, [], run, .inl rfl⟩
    | stuck state c cs hread =>
      have hendless := opensComment_iff.1 ⟨c, cs, rfl, hread⟩
      exact fun earlier run => ⟨earlier, state, c :: cs, run, .inr hendless⟩
    | step state c cs lexeme rest hread ih => exact fun earlier run => ih _ (run.turn hread)
  exact hfrom {} source [] .start

namespace Run

variable {source : String} {earlier : List (State × List Char)} {final : State}

theorem eq_error_of_atEndlessComment {left : List Char}
    (run : Run source.toList earlier final left) (h : AtEndlessComment final left) :
    scanComments source = .error (.unclosedBlockComment final.position.line) := by
  obtain ⟨found, hscan⟩ := run.scanFrom_eq
  rw [scanComments_eq_error_iff, hscan, (opensComment_iff.2 h).scanFrom_eq]
  rfl

theorem eq_error_of_innermost (run : Run source.toList earlier final []) {line : Nat}
    {outer : List Frame} (h : Innermost final.frames line outer) :
    scanComments source = .error (.unclosedLiteral .template line) := by
  obtain ⟨found, hscan⟩ := run.scanFrom_eq
  rw [scanComments_eq_error_iff, hscan, scanFrom_nil, h.openTemplateLine?_eq]
  rfl

theorem exists_ok (run : Run source.toList earlier final []) (h : final.frames = []) :
    ∃ map, scanComments source = .ok map := by
  obtain ⟨found, hscan⟩ := run.scanFrom_eq
  refine ⟨OrderedMap.ofList (found ++ []), ?_⟩
  rw [scanComments, hscan, scanFrom_nil, State.openTemplateLine?, h]
  rfl

end Run

/-- A scan keeps its constructs and its place in order at every turn, and comes to an end after as
many turns at most as the source has bytes. It fails at a block comment that has no end. Otherwise it
comes to the end of the source, and succeeds if and only if nothing is open there. If not, it reports
the line on which the innermost open template literal was opened. -/
theorem scanComments_run (source : String) :
    (∀ earlier state left, Run source.toList earlier state left →
      Regular source earlier state left) ∧
    (∃ earlier final left, Run source.toList earlier final left ∧
      (left = [] ∨ AtEndlessComment final left)) ∧
    (∀ earlier final left, Run source.toList earlier final left → AtEndlessComment final left →
      scanComments source = .error (.unclosedBlockComment final.position.line)) ∧
    ∀ earlier final, Run source.toList earlier final [] →
      ((∃ map, scanComments source = .ok map) ↔ final.frames = []) ∧
      (final.frames ≠ [] → ∃ line outer, Innermost final.frames line outer ∧
        OpenSince source.toList earlier line outer ∧
        scanComments source = .error (.unclosedLiteral .template line)) := by
  refine ⟨fun _ _ _ run => run.regular, exists_run source.toList,
    fun _ _ _ run => run.eq_error_of_atEndlessComment, ?_⟩
  intro earlier final run
  have hopen : final.frames ≠ [] → ∃ line outer, Innermost final.frames line outer ∧
      OpenSince source.toList earlier line outer ∧
      scanComments source = .error (.unclosedLiteral .template line) := by
    intro hne
    obtain ⟨line, outer, hinnermost⟩ := run.alternating.exists_innermost hne
    exact ⟨line, outer, hinnermost, run.openSince hinnermost.suffix,
      run.eq_error_of_innermost hinnermost⟩
  refine ⟨⟨?_, run.exists_ok⟩, hopen⟩
  rintro ⟨map, hok⟩
  refine Decidable.byContradiction fun hne => ?_
  obtain ⟨_, _, _, _, herror⟩ := hopen hne
  rw [hok] at herror
  cases herror

/-- A division and a pair of braces in an expression of a template literal, and below them another
template literal. Neither literal is closed. -/
def openInner : String := "\x60$\x7b/\x7b\x7d\n\x60"

/-- In front of the closing brace. -/
def innerBrace : State where
  position := ⟨5, 1⟩
  frames := [.interpolation 1, .template 1]

def innerEnd : State where
  position := ⟨8, 2⟩
  frames := [.template 2, .interpolation 0, .template 1]
  operandExpected := false

theorem exists_run_innerBrace :
    ∃ earlier, Run openInner.toList earlier innerBrace ['}', '\n', '\x60'] := by
  have hliteral : Lexeme.read? {} '\x60' ['$', '{', '/', '{', '}', '\n', '\x60'] =
      some (.openTemplate, ['$', '{', '/', '{', '}', '\n', '\x60']) := by decide +kernel
  have hexpression : Lexeme.read? ⟨⟨1, 1⟩, [.template 1], true⟩ '$'
      ['{', '/', '{', '}', '\n', '\x60'] =
        some (.openInterpolation, ['/', '{', '}', '\n', '\x60']) := by decide +kernel
  -- The slash could open a regular expression literal, but there is no other on its line.
  have hslash : Lexeme.read? ⟨⟨3, 1⟩, [.interpolation 0, .template 1], true⟩ '/'
      ['{', '}', '\n', '\x60'] = some (.symbol '/', ['{', '}', '\n', '\x60']) := by decide +kernel
  have hbrace : Lexeme.read? ⟨⟨4, 1⟩, [.interpolation 0, .template 1], true⟩ '{'
      ['}', '\n', '\x60'] = some (.openBrace, ['}', '\n', '\x60']) := by decide +kernel
  exact ⟨_, .turn (.turn (.turn (.turn .start hliteral) hexpression) hslash) hbrace⟩

theorem exists_run_innerEnd : ∃ earlier, Run openInner.toList earlier innerEnd [] := by
  obtain ⟨earlier, run⟩ := exists_run_innerBrace
  have hbrace : Lexeme.read? innerBrace '}' ['\n', '\x60'] =
      some (.closeBrace, ['\n', '\x60']) := by decide +kernel
  have hblank : Lexeme.read? ⟨⟨6, 1⟩, [.interpolation 0, .template 1], false⟩ '\n' ['\x60'] =
      some (.blank '\n', ['\x60']) := by decide +kernel
  have hliteral : Lexeme.read? ⟨⟨7, 2⟩, [.interpolation 0, .template 1], false⟩ '\x60' [] =
      some (.openTemplate, []) := by decide +kernel
  exact ⟨_, .turn (.turn (.turn run hbrace) hblank) hliteral⟩

theorem scanComments_run_openInner :
    (∃ earlier, Run openInner.toList earlier innerBrace ['}', '\n', '\x60'] ∧
      Regular openInner earlier innerBrace ['}', '\n', '\x60']) ∧
    (Run "/*".toList [] {} ['/', '*'] ∧ AtEndlessComment {} ['/', '*'] ∧
      scanComments "/*" = .error (.unclosedBlockComment 1)) ∧
    ∃ earlier, Run openInner.toList earlier innerEnd [] ∧ innerEnd.frames ≠ [] ∧
      (¬ ∃ map, scanComments openInner = .ok map) ∧
      OpenSince openInner.toList earlier 2 [.interpolation 0, .template 1] ∧
      scanComments openInner = .error (.unclosedLiteral .template 2) := by
  obtain ⟨hregular, -, -, hends⟩ := scanComments_run openInner
  obtain ⟨before, runBefore⟩ := exists_run_innerBrace
  obtain ⟨earlier, run⟩ := exists_run_innerEnd
  have hendless : AtEndlessComment {} ['/', '*'] := ⟨rfl, [], rfl, by simp⟩
  have hcomment : Run "/*".toList [] {} ['/', '*'] := .start
  have hne : innerEnd.frames ≠ [] := by decide
  obtain ⟨hiff, hopen⟩ := hends earlier innerEnd run
  obtain ⟨line, outer, hinnermost, hsince, herror⟩ := hopen hne
  obtain ⟨rfl, rfl⟩ : line = 2 ∧ outer = [.interpolation 0, .template 1] := by
    simpa [Innermost, innerEnd, eq_comm] using hinnermost
  exact ⟨⟨before, runBefore, hregular before innerBrace _ runBefore⟩,
    ⟨hcomment, hendless, (scanComments_run "/*").2.2.1 [] {} _ hcomment hendless⟩,
    earlier, run, hne, fun hok => hne (hiff.1 hok), hsince, herror⟩

end WidgetPipeline.Script
