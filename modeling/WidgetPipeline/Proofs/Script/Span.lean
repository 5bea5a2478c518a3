import WidgetPipeline.Proofs.OrderedMap
import WidgetPipeline.Proofs.Script.Reading
import WidgetPipeline.Proofs.Script.Steps

/-!
# Where comments stand

`Spans` says of a comment, independently of the scan, that it takes up a source text from one byte
offset to another: which characters delimit it, where it ends, what its content is and on which
lines it lies. A comment that starts at a given offset is determined by the text (`Spans.unique`).
`InOrder` strings such comments together between two places of the text. The steps of a scan find
comments in order (`Steps.inOrder`), whatever is skipped between them.
-/

namespace WidgetPipeline.Script

open Text (byteLength lineBreaks)

/-- The comment takes up the source from byte offset `start` to byte offset `stop`. A line comment
runs to the end of its line, a block comment through the first closing delimiter behind its
opening one. -/
inductive Spans (source : List Char) (start : Nat) (comment : Comment) (stop : Nat) : Prop
  | line (before body after : List Char)
      (cut : source = before ++ ('/' :: '/' :: body) ++ after)
      (single : '\n' ∉ body)
      (ends : AtLineEnd after)
      (starts : start = byteLength before)
      (stops : stop = byteLength (before ++ '/' :: '/' :: body))
      (content : comment.content = String.ofList (Text.trim body))
      (firstLine : comment.firstLine = 1 + lineBreaks before)
      (lastLine : comment.lastLine = 1 + lineBreaks before)
  | block (before inner after : List Char)
      (cut : source = before ++ ('/' :: '*' :: inner ++ ['*', '/']) ++ after)
      (first : ∀ earlier later, inner ++ '*' :: '/' :: after = earlier ++ '*' :: '/' :: later →
        inner.length ≤ earlier.length)
      (starts : start = byteLength before)
      (stops : stop = byteLength (before ++ ('/' :: '*' :: inner ++ ['*', '/'])))
      (content : comment.content = String.ofList (blockContent inner))
      (firstLine : comment.firstLine = 1 + lineBreaks before)
      (lastLine : comment.lastLine = 1 + lineBreaks (before ++ ('/' :: '*' :: inner ++ ['*', '/'])))

/-- A comment is longer than nothing. -/
theorem Spans.start_lt_stop {source : List Char} {start stop : Nat} {comment : Comment}
    (spans : Spans source start comment stop) : start < stop := by
  have hslash := Char.utf8Size_pos '/'
  cases spans with
  | line before body after cut single ends starts stops =>
    simp only [stops, starts, Text.byteLength_append, Text.byteLength_cons]
    omega
  | block before inner after cut first starts stops =>
    simp only [stops, starts, Text.byteLength_append, Text.byteLength_cons, List.cons_append]
    omega

theorem Spans.firstLine_le_lastLine {source : List Char} {start stop : Nat} {comment : Comment}
    (spans : Spans source start comment stop) : comment.firstLine ≤ comment.lastLine := by
  cases spans with
  | line before body after cut single ends starts stops content firstLine lastLine =>
    omega
  | block before inner after cut first starts stops content firstLine lastLine =>
    rw [Text.lineBreaks_append] at lastLine
    omega

/-- The text says which comment starts at an offset and where it stops. -/
theorem Spans.unique {source : List Char} {start stop stop' : Nat} {comment comment' : Comment}
    (spans : Spans source start comment stop) (spans' : Spans source start comment' stop') :
    comment = comment' ∧ stop = stop' := by
  obtain ⟨content, firstLine, lastLine⟩ := comment
  obtain ⟨content', firstLine', lastLine'⟩ := comment'
  cases spans with
  | line before body after cut single ends starts stops hcontent first last =>
    cases spans' with
    | line before' body' after' cut' single' ends' starts' stops' hcontent' first' last' =>
      rw [List.append_assoc] at cut cut'
      obtain rfl := Text.eq_of_byteLength_eq (cut.symm.trans cut') (starts.symm.trans starts')
      have hafter := List.append_cancel_left (cut.symm.trans cut')
      simp only [List.cons_append, List.cons.injEq, true_and] at hafter
      obtain rfl := eq_of_atLineEnd single single' ends ends' hafter
      simp_all
    | block before' inner' after' cut' first' starts' stops' =>
      rw [List.append_assoc] at cut cut'
      obtain rfl := Text.eq_of_byteLength_eq (cut.symm.trans cut') (starts.symm.trans starts')
      have hafter := List.append_cancel_left (cut.symm.trans cut')
      simp at hafter
  | block before inner after cut first starts stops hcontent firstEq lastEq =>
    cases spans' with
    | line before' body' after' cut' single' ends' starts' stops' =>
      rw [List.append_assoc] at cut cut'
      obtain rfl := Text.eq_of_byteLength_eq (cut.symm.trans cut') (starts.symm.trans starts')
      have hafter := List.append_cancel_left (cut.symm.trans cut')
      simp at hafter
    | block before' inner' after' cut' first' starts' stops' hcontent' firstEq' lastEq' =>
      rw [List.append_assoc] at cut cut'
      obtain rfl := Text.eq_of_byteLength_eq (cut.symm.trans cut') (starts.symm.trans starts')
      have hafter := List.append_cancel_left (cut.symm.trans cut')
      simp only [List.cons_append, List.append_assoc, List.nil_append, List.cons.injEq,
        true_and] at hafter
      have hlength : inner.length = inner'.length :=
        Nat.le_antisymm (first inner' after' hafter) (first' inner after hafter.symm)
      obtain rfl := (List.append_inj hafter hlength).1
      simp_all

/-! ## Comments one behind the other -/

/-- The comments take up parts of the source between two places of it, each behind the one before
and not above its last line. -/
inductive InOrder (source : List Char) : Position → List (Nat × Comment) → Position → Prop
  | nil {first last : Position} (offset : first.offset ≤ last.offset)
      (line : first.line ≤ last.line) : InOrder source first [] last
  | cons {first last : Position} {start stop : Nat} {comment : Comment}
      {rest : List (Nat × Comment)}
      (spans : Spans source start comment stop)
      (offset : first.offset ≤ start)
      (line : first.line ≤ comment.firstLine)
      (tail : InOrder source ⟨stop, comment.lastLine⟩ rest last) :
      InOrder source first ((start, comment) :: rest) last

namespace InOrder

variable {source : List Char} {first middle last : Position} {comments more : List (Nat × Comment)}

theorem bounds (h : InOrder source first comments last) :
    first.offset ≤ last.offset ∧ first.line ≤ last.line := by
  induction h with
  | nil offset line => exact ⟨offset, line⟩
  | cons spans offset line tail ih =>
    have hstop := spans.start_lt_stop
    have hline := spans.firstLine_le_lastLine
    constructor
    · exact Nat.le_trans (Nat.le_trans offset (Nat.le_of_lt hstop)) ih.1
    · exact Nat.le_trans (Nat.le_trans line hline) ih.2

theorem from_earlier (h : InOrder source middle comments last)
    (offset : first.offset ≤ middle.offset) (line : first.line ≤ middle.line) :
    InOrder source first comments last := by
  cases h with
  | nil offset' line' => exact .nil (Nat.le_trans offset offset') (Nat.le_trans line line')
  | cons spans offset' line' tail =>
    exact .cons spans (Nat.le_trans offset offset') (Nat.le_trans line line') tail

theorem append (h : InOrder source first comments middle) (h' : InOrder source middle more last) :
    InOrder source first (comments ++ more) last := by
  induction h with
  | nil offset line => exact h'.from_earlier offset line
  | cons spans offset line _ ih => exact .cons spans offset line (ih h')

theorem of_mem (h : InOrder source first comments last) {entry : Nat × Comment}
    (hmem : entry ∈ comments) :
    ∃ stop, Spans source entry.1 entry.2 stop ∧ first.offset ≤ entry.1 ∧ stop ≤ last.offset ∧
      first.line ≤ entry.2.firstLine ∧ entry.2.lastLine ≤ last.line := by
  induction h with
  | nil => simp at hmem
  | cons spans offset line tail ih =>
    have hstop := spans.start_lt_stop
    have hline := spans.firstLine_le_lastLine
    rcases List.mem_cons.1 hmem with rfl | hmem
    · exact ⟨_, spans, offset, tail.bounds.1, line, tail.bounds.2⟩
    · obtain ⟨stop, hspans, hoffset, hlast, hfirst, hlines⟩ := ih hmem
      simp only at hoffset hfirst
      exact ⟨stop, hspans, by omega, hlast, by omega, hlines⟩

/-- Of two comments the earlier one stops before the later one starts. -/
theorem pairwise (h : InOrder source first comments last) :
    comments.Pairwise fun a b =>
      (∀ stop, Spans source a.1 a.2 stop → stop ≤ b.1) ∧ a.2.lastLine ≤ b.2.firstLine := by
  induction h with
  | nil => exact List.Pairwise.nil
  | cons spans offset line tail ih =>
    refine List.pairwise_cons.2 ⟨?_, ih⟩
    intro entry hmem
    obtain ⟨_, _, hoffset, _, hfirst, _⟩ := tail.of_mem hmem
    refine ⟨?_, hfirst⟩
    intro stop hspans
    rw [(hspans.unique spans).2]
    exact hoffset

theorem ascending (h : InOrder source first comments last) : Entries.Ascending comments := by
  refine List.Pairwise.imp_of_mem ?_ h.pairwise
  intro a b ha _ hab
  obtain ⟨stop, spans, _⟩ := h.of_mem ha
  have hstart := spans.start_lt_stop
  have hstop := hab.1 stop spans
  exact Nat.compare_eq_lt.2 (by omega)

end InOrder

/-! ## Comments that a scan finds -/

/-- The lines of a comment are those of its characters. -/
theorem State.lines_of_comment? {state : State} {c : Char} {cs rest : List Char} {lexeme : Lexeme}
    {comment : Comment} (hread : Lexeme.read? state c cs = some (lexeme, rest))
    (h : state.comment? lexeme = some comment) :
    comment.firstLine = state.position.line ∧
      comment.lastLine = state.position.line + lineBreaks lexeme.text := by
  cases lexeme with
  | lineComment body =>
    obtain rfl := Option.some.inj h
    have hbody := Text.lineBreaks_eq_zero (Lexeme.of_read?_lineComment hread).1
    simp [Lexeme.text, hbody]
  | blockComment inner =>
    obtain rfl := Option.some.inj h
    simp [Lexeme.text]
  | _ => simp [comment?] at h

/-- A comment that is read takes up the source up to the place behind it. -/
theorem spans_of_comment? {source before cs rest : List Char} {state : State} {c : Char}
    {lexeme : Lexeme} {comment : Comment} (hsource : source = before ++ c :: cs)
    (hposition : state.position = Position.advance {} before)
    (hread : Lexeme.read? state c cs = some (lexeme, rest))
    (h : state.comment? lexeme = some comment) :
    Spans source state.position.offset comment (state.after lexeme).position.offset := by
  have htext := Lexeme.read?_eq_some hread
  have hcut : source = before ++ lexeme.text ++ rest := by
    rw [hsource, ← htext, List.append_assoc]
  have hstop : (state.after lexeme).position.offset = byteLength (before ++ lexeme.text) := by
    simp [State.after, hposition, Position.advance]
  cases lexeme with
  | lineComment body =>
    obtain rfl := Option.some.inj h
    obtain ⟨single, ends⟩ := Lexeme.of_read?_lineComment hread
    refine .line before body rest hcut single ends ?_ hstop rfl ?_ ?_
    all_goals simp [hposition, Position.advance]
  | blockComment inner =>
    obtain rfl := Option.some.inj h
    obtain ⟨ds, rfl, hsplit⟩ := Lexeme.of_read?_blockComment hread
    obtain ⟨hinner, first⟩ := splitAtBlockEnd_eq_some_iff.1 hsplit
    refine .block before inner rest hcut (hinner ▸ first) ?_ hstop rfl ?_ ?_
    all_goals simp [hposition, Position.advance]
    omega
  | _ => simp [State.comment?] at h

/-- A lexeme read in front of the rest of a source adds the comment that stands there, if any. -/
theorem found_inOrder {source before cs rest : List Char} {state : State} {c : Char}
    {lexeme : Lexeme} (hsource : source = before ++ c :: cs)
    (hposition : state.position = Position.advance {} before)
    (hread : Lexeme.read? state c cs = some (lexeme, rest)) :
    InOrder source state.position (state.found lexeme) (state.after lexeme).position := by
  cases hcomment : state.comment? lexeme with
  | none =>
    rw [State.found, hcomment]
    exact .nil (Nat.le_add_right _ _) (Nat.le_add_right _ _)
  | some comment =>
    obtain ⟨hfirst, hlast⟩ := State.lines_of_comment? hread hcomment
    rw [State.found, hcomment]
    exact .cons (spans_of_comment? hsource hposition hread hcomment) (Nat.le_refl _)
      (Nat.le_of_eq hfirst.symm) (.nil (Nat.le_refl _) (Nat.le_of_eq hlast))

/-- The steps of a scan find comments in order, between the places at which they start and end. -/
theorem Steps.inOrder {source before cs left : List Char} {state final : State}
    {comments : List (Nat × Comment)} (steps : Steps state cs comments final left)
    (hsource : source = before ++ cs) (hposition : state.position = Position.advance {} before) :
    InOrder source state.position comments final.position := by
  induction steps generalizing before with
  | refl state cs => exact .nil (Nat.le_refl _) (Nat.le_refl _)
  | @step state final c cs rest left lexeme comments hread _ ih =>
    have hrest : source = before ++ lexeme.text ++ rest := by
      rw [hsource, ← Lexeme.read?_eq_some hread, List.append_assoc]
    have hbehind := State.position_after hposition lexeme
    exact (found_inOrder hsource hposition hread).append (ih hrest hbehind)

/-- A scan of a whole source finds comments in order, from its start to its last line. -/
theorem scanFrom_inOrder {source : List Char} {comments : List (Nat × Comment)}
    (h : scanFrom {} source = .ok comments) :
    InOrder source {} comments (Position.advance {} source) := by
  obtain ⟨final, steps, _⟩ := scanFrom_eq_ok_iff.1 h
  obtain ⟨consumed, hconsumed, hfinal⟩ := steps.exists_consumed
  rw [List.append_nil] at hconsumed
  rw [hconsumed, ← hfinal, ← hconsumed]
  exact steps.inOrder (List.nil_append source).symm rfl

theorem scanComments_eq_ok_iff {source : String} {map : CommentMap} :
    scanComments source = .ok map ↔ scanFrom {} source.toList = .ok map.toList := by
  constructor
  · intro h
    unfold scanComments at h
    cases hscan : scanFrom {} source.toList with
    | error error => simp [hscan, Except.map] at h
    | ok comments =>
      obtain rfl : OrderedMap.ofList comments = map := by simpa [hscan, Except.map] using h
      rw [OrderedMap.toList_ofList (scanFrom_inOrder hscan).ascending]
  · intro h
    have hmap : OrderedMap.ofList map.toList = map := by
      have htoList := OrderedMap.toList_ofList (scanFrom_inOrder h).ascending
      cases hof : OrderedMap.ofList map.toList with
      | mk entries ascending =>
        rw [hof] at htoList
        cases map
        simp_all
    simp [scanComments, h, Except.map, hmap]

theorem scanComments_eq_error_iff {source : String} {error : ScanError} :
    scanComments source = .error error ↔ scanFrom {} source.toList = .error error := by
  rw [scanComments]
  cases scanFrom {} source.toList with
  | error other => simp [Except.map]
  | ok comments => simp [Except.map]

/-- The comments of a scan are kept under their offsets as they are found. -/
theorem map_toList_scanComments (source : String) :
    (scanComments source).map (·.toList) = scanFrom {} source.toList := by
  cases hscan : scanComments source with
  | error error => rw [scanComments_eq_error_iff.1 hscan]; rfl
  | ok map => rw [scanComments_eq_ok_iff.1 hscan]; rfl

/-- A successful scan lists comments of the source, each with its exact extent, content and lines.
They are disjoint, no comment starts above the last line of the one before it, and all lines are
lines of the source. -/
theorem scanComments_spans {source : String} {map : CommentMap}
    (h : scanComments source = .ok map) :
    (∀ entry ∈ map.toList, ∃ stop, Spans source.toList entry.1 entry.2 stop) ∧
      map.toList.Pairwise (fun a b =>
        (∀ stop, Spans source.toList a.1 a.2 stop → stop ≤ b.1) ∧
          a.2.lastLine ≤ b.2.firstLine) ∧
      ∀ entry ∈ map.toList, 1 ≤ entry.2.firstLine ∧ entry.2.firstLine ≤ entry.2.lastLine ∧
        entry.2.lastLine ≤ (Text.lines source.toList).length := by
  have hinOrder := scanFrom_inOrder (scanComments_eq_ok_iff.1 h)
  refine ⟨?_, hinOrder.pairwise, ?_⟩
  · intro entry hmem
    obtain ⟨stop, spans, _⟩ := hinOrder.of_mem hmem
    exact ⟨stop, spans⟩
  · intro entry hmem
    obtain ⟨_, spans, _, _, hfirst, hlast⟩ := hinOrder.of_mem hmem
    refine ⟨hfirst, spans.firstLine_le_lastLine, ?_⟩
    rw [Text.length_lines]
    simp only [Position.advance] at hlast
    omega

/-- A template literal whose text escapes a line break and whose interpolated expression holds a
quoted text broken over two lines, a block comment over two more, and a line comment behind it. -/
def nestedSource : String := "`a\\\n$\x7b'x\\\ny' /* b\nc */\x7d` // d"

theorem scanComments_spans_nestedSource :
    scanComments nestedSource = .ok ⟨[(13, ⟨"b\nc", 3, 4⟩), (25, ⟨"d", 4, 4⟩)], by decide⟩ ∧
      ∃ stop, Spans nestedSource.toList 13 ⟨"b\nc", 3, 4⟩ stop ∧ stop ≤ 25 := by
  have hscan : scanComments nestedSource =
      .ok ⟨[(13, ⟨"b\nc", 3, 4⟩), (25, ⟨"d", 4, 4⟩)], by decide⟩ :=
    eq_ok_of_toOption (by decide +kernel)
  obtain ⟨hspans, hpairwise, _⟩ := scanComments_spans hscan
  obtain ⟨stop, spans⟩ := hspans (13, ⟨"b\nc", 3, 4⟩) (by simp)
  have hdisjoint := (List.pairwise_cons.1 hpairwise).1 (25, ⟨"d", 4, 4⟩) (by simp)
  exact ⟨hscan, stop, spans, hdisjoint.1 stop spans⟩

end WidgetPipeline.Script
