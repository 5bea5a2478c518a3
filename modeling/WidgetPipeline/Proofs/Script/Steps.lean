import WidgetPipeline.Script.Scan

/-!
# A scan as a sequence of steps

One step of a scan reads one lexeme. `Steps` strings steps together: from a state in front of a text
to a later state in front of what is left of it, with the comments found on the way. A scan of the
text goes on from there (`Steps.scanFrom_eq`), and a scan that succeeds is a sequence of steps to
the end of the text (`scanFrom_eq_ok_iff`). What holds along a scan is proved step by step
(`scan_induction`).
-/

namespace WidgetPipeline.Script

/-- That a result is a success with a given value can be decided on its value alone. -/
theorem eq_ok_of_toOption {ε α : Type} {result : Except ε α} {value : α}
    (h : result.toOption = some value) : result = .ok value := by
  cases result with
  | error error => simp [Except.toOption] at h
  | ok other => simpa [Except.toOption] using h

/-- The error of a failure. -/
def error? {ε α : Type} : Except ε α → Option ε
  | .error error => some error
  | .ok _ => none

/-- That a result is a failure with a given error can be decided on its error alone. -/
theorem eq_error_of_error? {ε α : Type} {result : Except ε α} {error : ε}
    (h : error? result = some error) : result = .error error := by
  cases result with
  | error other => simpa [error?] using h
  | ok value => simp [error?] at h

/-- The comment that a lexeme read in this state adds to a scan, under its offset, if it is one. -/
def State.found (state : State) (lexeme : Lexeme) : List (Nat × Comment) :=
  ((state.comment? lexeme).map fun comment => (state.position.offset, comment)).toList

/-- A comment leaves everything but the place as it is. -/
theorem State.after_of_comment? {state : State} {lexeme : Lexeme} {comment : Comment}
    (h : state.comment? lexeme = some comment) :
    state.after lexeme = { state with position := state.position.advance lexeme.text } := by
  cases lexeme with
  | lineComment body => rfl
  | blockComment inner => rfl
  | _ => simp [comment?] at h

/-- A lexeme is one comment at most. -/
theorem State.eq_of_mem_found {state : State} {lexeme : Lexeme} {entry : Nat × Comment}
    (h : entry ∈ state.found lexeme) :
    state.found lexeme = [entry] ∧ state.comment? lexeme = some entry.2 := by
  obtain ⟨comment, hcomment, rfl⟩ := Option.map_eq_some_iff.1 (Option.mem_toList.1 h)
  rw [found, hcomment]
  exact ⟨rfl, rfl⟩

/-- A lexeme takes up some of the text. -/
theorem State.offset_lt_after (state : State) (lexeme : Lexeme) :
    state.position.offset < (state.after lexeme).position.offset := by
  obtain ⟨c, cs, htext⟩ := List.exists_cons_of_ne_nil lexeme.text_ne_nil
  have hpos := c.utf8Size_pos
  have hoffset : (state.after lexeme).position.offset =
      state.position.offset + Text.byteLength lexeme.text := rfl
  rw [hoffset, htext, Text.byteLength_cons]
  omega

/-- The place behind a lexeme is the place behind the text up to its end. -/
theorem State.position_after {state : State} {before : List Char}
    (h : state.position = Position.advance {} before) (lexeme : Lexeme) :
    (state.after lexeme).position = Position.advance {} (before ++ lexeme.text) := by
  rw [Position.advance_append, ← h]
  rfl

/-- The steps from a state in front of a text to a state in front of the rest of it. -/
inductive Steps : State → List Char → List (Nat × Comment) → State → List Char → Prop
  | refl (state : State) (cs : List Char) : Steps state cs [] state cs
  | step {state final : State} {c : Char} {cs rest left : List Char} {lexeme : Lexeme}
      {comments : List (Nat × Comment)}
      (read : Lexeme.read? state c cs = some (lexeme, rest))
      (steps : Steps (state.after lexeme) rest comments final left) :
      Steps state (c :: cs) (state.found lexeme ++ comments) final left

theorem scanFrom_nil (state : State) :
    scanFrom state [] =
      match state.openTemplateLine? with
      | some line => .error (.unclosedLiteral .template line)
      | none => .ok [] := by
  cases hopen : state.openTemplateLine? with
  | none => simp [scanFrom, hopen]
  | some line => simp [scanFrom, hopen]

theorem scanFrom_of_read {state : State} {c : Char} {cs rest : List Char} {lexeme : Lexeme}
    (h : Lexeme.read? state c cs = some (lexeme, rest)) :
    scanFrom state (c :: cs) =
      (scanFrom (state.after lexeme) rest).map (state.found lexeme ++ ·) := by
  rw [scanFrom]
  split
  · rename_i hnone
    simp [h] at hnone
  · rename_i lexeme' rest' hsome
    obtain ⟨rfl, rfl⟩ : lexeme = lexeme' ∧ rest = rest' := by simpa [h] using hsome
    cases scanFrom (state.after lexeme) rest with
    | error error => rfl
    | ok comments =>
      cases hcomment : state.comment? lexeme with
      | none => simp [State.found, hcomment, Except.map]
      | some comment => simp [State.found, hcomment, Except.map]

theorem scanFrom_of_read_none {state : State} {c : Char} {cs : List Char}
    (h : Lexeme.read? state c cs = none) :
    scanFrom state (c :: cs) = .error (.unclosedBlockComment state.position.line) := by
  rw [scanFrom]
  split
  · rfl
  · rename_i hsome
    simp [h] at hsome

/-- Induction along a scan, which ends at the end of the text or where nothing can be read. -/
@[elab_as_elim]
theorem scan_induction {motive : State → List Char → Prop}
    (nil : ∀ state, motive state [])
    (stuck : ∀ state c cs, Lexeme.read? state c cs = none → motive state (c :: cs))
    (step : ∀ state c cs lexeme rest, Lexeme.read? state c cs = some (lexeme, rest) →
      motive (state.after lexeme) rest → motive state (c :: cs))
    (state : State) (cs : List Char) : motive state cs := by
  induction hn : cs.length using Nat.strongRecOn generalizing state cs with
  | ind n ih =>
    cases cs with
    | nil => exact nil state
    | cons c cs =>
      cases hread : Lexeme.read? state c cs with
      | none => exact stuck state c cs hread
      | some pair =>
        obtain ⟨lexeme, rest⟩ := pair
        have hlt : rest.length < n := hn ▸ Lexeme.length_lt_of_read? hread
        exact step state c cs lexeme rest hread (ih _ hlt (state.after lexeme) rest rfl)

namespace Steps

variable {state middle final : State} {cs ds left : List Char}
  {found comments : List (Nat × Comment)}

theorem one {c : Char} {rest : List Char} {lexeme : Lexeme}
    (read : Lexeme.read? state c cs = some (lexeme, rest)) :
    Steps state (c :: cs) (state.found lexeme) (state.after lexeme) rest := by
  simpa using step read (refl _ _)

theorem trans (first : Steps state cs found middle ds)
    (second : Steps middle ds comments final left) :
    Steps state cs (found ++ comments) final left := by
  induction first with
  | refl => exact second
  | step read _ ih =>
    rw [List.append_assoc]
    exact step read (ih second)

/-- The text in front of the rest is what the steps have come through. -/
theorem exists_consumed (steps : Steps state cs found final left) :
    ∃ consumed, cs = consumed ++ left ∧ final.position = state.position.advance consumed := by
  induction steps with
  | refl => exact ⟨[], rfl, rfl⟩
  | @step state _ _ _ _ _ lexeme _ read _ ih =>
    obtain ⟨consumed, rfl, hfinal⟩ := ih
    refine ⟨lexeme.text ++ consumed, ?_, ?_⟩
    · rw [List.append_assoc, Lexeme.read?_eq_some read]
    · rw [hfinal, Position.advance_append]
      rfl

/-- A scan goes on behind the steps it has made. -/
theorem scanFrom_eq (steps : Steps state cs found final left) :
    scanFrom state cs = (scanFrom final left).map (found ++ ·) := by
  induction steps with
  | refl state cs => cases scanFrom state cs <;> rfl
  | @step _ final _ _ _ left _ _ read _ ih =>
    rw [scanFrom_of_read read, ih]
    cases scanFrom final left with
    | error error => rfl
    | ok comments => simp [Except.map]

end Steps

/-- A scan succeeds when its steps lead to the end of the text and leave no template literal open.
-/
theorem scanFrom_eq_ok_iff {state : State} {cs : List Char} {comments : List (Nat × Comment)} :
    scanFrom state cs = .ok comments ↔
      ∃ final, Steps state cs comments final [] ∧ final.openTemplateLine? = none := by
  constructor
  · intro h
    induction state, cs using scan_induction generalizing comments with
    | nil state =>
      rw [scanFrom_nil] at h
      split at h
      · cases h
      · rename_i hclosed
        cases h
        exact ⟨state, .refl state [], hclosed⟩
    | stuck state c cs hread => simp [scanFrom_of_read_none hread] at h
    | step state c cs lexeme rest hread ih =>
      rw [scanFrom_of_read hread] at h
      cases htail : scanFrom (state.after lexeme) rest with
      | error error => simp [htail, Except.map] at h
      | ok tail =>
        obtain rfl : state.found lexeme ++ tail = comments := by
          simpa [htail, Except.map] using h
        obtain ⟨final, steps, hclosed⟩ := ih htail
        exact ⟨final, .step hread steps, hclosed⟩
  · rintro ⟨final, steps, hclosed⟩
    rw [steps.scanFrom_eq, scanFrom_nil, hclosed]
    simp [Except.map]

end WidgetPipeline.Script
