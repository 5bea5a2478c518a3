import WidgetPipeline.Proofs.Script.LineBreak
import WidgetPipeline.Proofs.Script.Span

/-!
# Sources that begin with the same lines

A line break cuts the comments of a source in three: those that end above it, at most one that goes
on behind it, and those that start below (`Cut`). The lines above the break settle the first of these
and where the second starts (`exists_cut`), so that they are the same in all sources that begin with
these lines (`scanComments_above`).
-/

namespace WidgetPipeline.Script

open Text (byteLength lineBreaks)

/-- Where a comment starts: its offset and its line. -/
def startOf (entry : Nat × Comment) : Nat × Nat := (entry.1, entry.2.firstLine)

/-- The comment takes up the source to this offset at most. -/
def EndsBy (source : List Char) (limit : Nat) (entry : Nat × Comment) : Prop :=
  ∃ stop, Spans source entry.1 entry.2 stop ∧ stop ≤ limit

/-- The comments of a source that end by an offset, that start in front of it and go on behind it,
and that start at it or behind. -/
structure Cut (source : List Char) (limit : Nat) (above across below : List (Nat × Comment)) :
    Prop where
  above : ∀ entry ∈ above, EndsBy source limit entry
  across : ∀ entry ∈ across, entry.1 < limit ∧
    ∃ stop, Spans source entry.1 entry.2 stop ∧ limit < stop
  below : ∀ entry ∈ below, limit ≤ entry.1

namespace Cut

variable {source : List Char} {limit : Nat} {above across below : List (Nat × Comment)}

/-- The comments that start in front of the offset are those in the first two parts. -/
theorem filter_start (cut : Cut source limit above across below) :
    (above ++ (across ++ below)).filter (·.1 < limit) = above ++ across := by
  have habove : above.filter (·.1 < limit) = above := by
    refine List.filter_eq_self.2 fun entry hmem => ?_
    obtain ⟨stop, spans, hstop⟩ := cut.above entry hmem
    exact decide_eq_true (Nat.lt_of_lt_of_le spans.start_lt_stop hstop)
  have hacross : across.filter (·.1 < limit) = across :=
    List.filter_eq_self.2 fun entry hmem => decide_eq_true (cut.across entry hmem).1
  have hbelow : below.filter (·.1 < limit) = [] :=
    List.filter_eq_nil_iff.2 fun entry hmem => by simpa using cut.below entry hmem
  rw [List.filter_append, List.filter_append, habove, hacross, hbelow, List.append_nil]

/-- The comments that end by the offset are those in the first part. -/
theorem mem_and_endsBy_iff (cut : Cut source limit above across below) {entry : Nat × Comment} :
    entry ∈ above ++ (across ++ below) ∧ EndsBy source limit entry ↔ entry ∈ above := by
  constructor
  · rintro ⟨hmem, stop, spans, hstop⟩
    have hstart := spans.start_lt_stop
    rcases List.mem_append.1 hmem with habove | hmem
    · exact habove
    · rcases List.mem_append.1 hmem with hacross | hbelow
      · obtain ⟨_, stop', spans', hstop'⟩ := cut.across entry hacross
        have hsame := (spans.unique spans').2
        omega
      · have hlow := cut.below entry hbelow
        omega
  · intro habove
    exact ⟨List.mem_append_left _ habove, cut.above entry habove⟩

end Cut

/-- Steps that lead from a source's start through a line break lead behind the break. -/
theorem Steps.position_of_through {front more read left : List Char} {final : State}
    {comments : List (Nat × Comment)}
    (steps : Steps {} (front ++ '\n' :: more) comments final left) (hmore : more = read ++ left) :
    final.position = Position.advance {} (front ++ '\n' :: read) := by
  obtain ⟨consumed, hconsumed, hfinal⟩ := steps.exists_consumed
  have hcut : front ++ '\n' :: read ++ left = consumed ++ left := by
    rw [← hconsumed, hmore, List.append_assoc, List.cons_append]
  rw [hfinal, List.append_cancel_right hcut]

/-- What a scan finds behind some of its steps starts behind them. -/
theorem Steps.exists_rest {source left : List Char} {next : State}
    {found comments : List (Nat × Comment)} (steps : Steps {} source found next left)
    (hscan : scanFrom {} source = .ok comments) :
    ∃ rest, comments = found ++ rest ∧ ∀ entry ∈ rest, next.position.offset ≤ entry.1 := by
  rw [steps.scanFrom_eq] at hscan
  cases hrest : scanFrom next left with
  | error error => simp [hrest, Except.map] at hscan
  | ok rest =>
    obtain rfl : found ++ rest = comments := by simpa [hrest, Except.map] using hscan
    refine ⟨rest, rfl, ?_⟩
    intro entry hmem
    obtain ⟨consumed, hconsumed, hnext⟩ := steps.exists_consumed
    obtain ⟨final, hsteps, _⟩ := scanFrom_eq_ok_iff.1 hrest
    obtain ⟨_, _, hstart, _⟩ := (hsteps.inOrder hconsumed hnext).of_mem hmem
    exact hstart

namespace UpToBreak

variable {front left : List Char} {found : List (Nat × Comment)} {middle : State}

theorem offset_lt (h : UpToBreak {} front found middle left) :
    middle.position.offset < byteLength (front ++ ['\n']) := by
  obtain ⟨consumed, rfl, hmiddle⟩ := h.steps.exists_consumed
  have hbreak := Char.utf8Size_pos '\n'
  simp only [hmiddle, Position.advance, Text.byteLength_append, Text.byteLength_cons,
    Text.byteLength_nil]
  omega

/-- Comments found in front of a line break end there. -/
theorem endsBy (h : UpToBreak {} front found middle left) (more : List Char) :
    ∀ entry ∈ found, EndsBy (front ++ '\n' :: more) (byteLength (front ++ ['\n'])) entry := by
  intro entry hmem
  have hinOrder := (h.continued more).inOrder (List.nil_append _).symm rfl
  obtain ⟨stop, spans, _, hstop, _⟩ := hinOrder.of_mem hmem
  exact ⟨stop, spans, Nat.le_trans hstop (Nat.le_of_lt h.offset_lt)⟩

/-- A block comment that is open at the break takes in the break. -/
theorem cut_of_opensComment (h : UpToBreak {} front found middle left)
    (hopens : OpensComment middle left) {more : List Char} {comments : List (Nat × Comment)}
    (hscan : scanFrom {} (front ++ '\n' :: more) = .ok comments) :
    ∃ comment below, comments = found ++ ((middle.position.offset, comment) :: below) ∧
      comment.firstLine = middle.position.line ∧
      Cut (front ++ '\n' :: more) (byteLength (front ++ ['\n'])) found
        [(middle.position.offset, comment)] below := by
  obtain ⟨c, cs, rfl, hnone⟩ := hopens
  have hread := Lexeme.read?_append_break_of_none hnone more
  cases hend : splitAtBlockEnd more with
  | none =>
    rw [hend] at hread
    rw [(h.continued more).scanFrom_eq, List.cons_append, scanFrom_of_read_none hread] at hscan
    simp [Except.map] at hscan
  | some pair =>
    obtain ⟨inner, rest⟩ := pair
    rw [hend] at hread
    have hmore : more = (inner ++ ['*', '/']) ++ rest := by
      simp [← splitAtBlockEnd_eq_some hend]
    have hsteps := (h.continued more).trans (.one hread)
    obtain ⟨below, rfl, hbelow⟩ := hsteps.exists_rest hscan
    obtain ⟨consumed, hfront, hmiddle⟩ := h.steps.exists_consumed
    have hsource : front ++ '\n' :: more = consumed ++ c :: (cs ++ '\n' :: more) := by
      rw [hfront, List.append_assoc, List.cons_append]
    have hlimit : byteLength (front ++ ['\n']) <
        (middle.after (.blockComment (cs.tail ++ '\n' :: inner))).position.offset := by
      have hslash := Char.utf8Size_pos '/'
      rw [hsteps.position_of_through hmore]
      simp only [Position.advance, Text.byteLength_append, Text.byteLength_cons,
        Text.byteLength_nil]
      omega
    refine ⟨_, below, List.append_assoc _ _ _, rfl, h.endsBy more, ?_, ?_⟩
    · intro entry hmem
      obtain rfl := List.mem_singleton.1 hmem
      exact ⟨h.offset_lt, _, spans_of_comment? hsource hmiddle hread rfl, hlimit⟩
    · exact fun entry hmem => Nat.le_trans (Nat.le_of_lt hlimit) (hbelow entry hmem)

theorem cut_of_passesBreak (h : UpToBreak {} front found middle left)
    (hpasses : PassesBreak middle left) {more : List Char} {comments : List (Nat × Comment)}
    (hscan : scanFrom {} (front ++ '\n' :: more) = .ok comments) :
    ∃ below, comments = found ++ below ∧
      Cut (front ++ '\n' :: more) (byteLength (front ++ ['\n'])) found [] below := by
  obtain ⟨next, later, hthrough, _, read, hmore⟩ := hpasses.through more
  have hsteps := (h.continued more).trans hthrough
  rw [List.append_nil] at hsteps
  obtain ⟨below, rfl, hbelow⟩ := hsteps.exists_rest hscan
  have hlimit : byteLength (front ++ ['\n']) ≤ next.position.offset := by
    rw [hsteps.position_of_through hmore.symm]
    simp only [Position.advance, Text.byteLength_append, Text.byteLength_cons,
      Text.byteLength_nil]
    omega
  refine ⟨below, rfl, h.endsBy more, by simp, ?_⟩
  exact fun entry hmem => Nat.le_trans hlimit (hbelow entry hmem)

end UpToBreak

/-- The lines above a line break settle the comments that end above it, and where the comment starts
that goes on behind it, if there is one. -/
theorem exists_cut (front : List Char) :
    ∃ above starts, ∀ more comments, scanFrom {} (front ++ '\n' :: more) = .ok comments →
      ∃ across below, comments = above ++ (across ++ below) ∧
        Cut (front ++ '\n' :: more) (byteLength (front ++ ['\n'])) above across below ∧
        across.map startOf = starts := by
  obtain ⟨found, middle, left, h⟩ := exists_upToBreak {} front
  rcases h.stops with hopens | hpasses
  · refine ⟨found, [(middle.position.offset, middle.position.line)], ?_⟩
    intro more comments hscan
    obtain ⟨comment, below, rfl, hline, cut⟩ := h.cut_of_opensComment hopens hscan
    exact ⟨_, below, rfl, cut, by simp [startOf, hline]⟩
  · refine ⟨found, [], ?_⟩
    intro more comments hscan
    obtain ⟨below, rfl, cut⟩ := h.cut_of_passesBreak hpasses hscan
    exact ⟨[], below, rfl, cut, rfl⟩

/-- What is found above a line break does not depend on what follows it. In two sources that begin
with the same text, up to a line break, comments start in the same places of this text, and those
that end in it are the same. -/
theorem scanComments_above {text more more' : String} {map map' : CommentMap}
    (hbreak : text.toList.getLast? = some '\n')
    (hscan : scanComments (text ++ more) = .ok map)
    (hscan' : scanComments (text ++ more') = .ok map') :
    (map.toList.filter (·.1 < byteLength text.toList)).map startOf =
        (map'.toList.filter (·.1 < byteLength text.toList)).map startOf ∧
      ∀ entry,
        entry ∈ map.toList ∧ EndsBy (text ++ more).toList (byteLength text.toList) entry ↔
          entry ∈ map'.toList ∧ EndsBy (text ++ more').toList (byteLength text.toList) entry := by
  obtain ⟨front, hfront⟩ := List.getLast?_eq_some_iff.1 hbreak
  have hsource : ∀ more : String, (text ++ more).toList = front ++ '\n' :: more.toList := by
    intro more
    rw [String.toList_append, hfront, List.append_assoc, List.singleton_append]
  rw [scanComments_eq_ok_iff, hsource] at hscan hscan'
  rw [hsource, hsource, hfront]
  obtain ⟨above, starts, hall⟩ := exists_cut front
  obtain ⟨across, below, hcomments, cut, hstarts⟩ := hall _ _ hscan
  obtain ⟨across', below', hcomments', cut', hstarts'⟩ := hall _ _ hscan'
  rw [hcomments, hcomments']
  constructor
  · rw [cut.filter_start, cut'.filter_start, List.map_append, List.map_append, hstarts, hstarts']
  · intro entry
    rw [cut.mem_and_endsBy_iff, cut'.mem_and_endsBy_iff]

/-- Lines with two comments and the start of a third one. -/
def openingLines : String := "f(/* a */ \x60//\x60); // b\n/* c\n"

/-- The comments where the third one goes on for some words. -/
def wordyMap : CommentMap where
  toList := [(2, ⟨"a", 1, 1⟩), (17, ⟨"b", 1, 1⟩), (22, ⟨"c\nd", 2, 3⟩), (36, ⟨"f", 3, 3⟩)]

/-- The comments where the third one ends at once and another one follows. -/
def tightMap : CommentMap where
  toList := [(2, ⟨"a", 1, 1⟩), (17, ⟨"b", 1, 1⟩), (22, ⟨"c", 2, 3⟩), (30, ⟨"g", 3, 3⟩)]

theorem scanComments_above_openComment :
    openingLines.toList.getLast? = some '\n' ∧
      scanComments (openingLines ++ "d */ 'e' // f") = .ok wordyMap ∧
      scanComments (openingLines ++ "*/ /* g */") = .ok tightMap ∧
      (wordyMap.toList.filter (·.1 < byteLength openingLines.toList)).map startOf =
        (tightMap.toList.filter (·.1 < byteLength openingLines.toList)).map startOf ∧
      (EndsBy (openingLines ++ "d */ 'e' // f").toList (byteLength openingLines.toList)
          (17, ⟨"b", 1, 1⟩) ↔
        EndsBy (openingLines ++ "*/ /* g */").toList (byteLength openingLines.toList)
          (17, ⟨"b", 1, 1⟩)) := by
  have hbreak : openingLines.toList.getLast? = some '\n' := by decide +kernel
  have hwordy : scanComments (openingLines ++ "d */ 'e' // f") = .ok wordyMap :=
    eq_ok_of_toOption (by decide +kernel)
  have htight : scanComments (openingLines ++ "*/ /* g */") = .ok tightMap :=
    eq_ok_of_toOption (by decide +kernel)
  obtain ⟨hstarts, hends⟩ := scanComments_above hbreak hwordy htight
  refine ⟨hbreak, hwordy, htight, hstarts, ?_⟩
  simpa [wordyMap, tightMap] using hends (17, ⟨"b", 1, 1⟩)

end WidgetPipeline.Script
