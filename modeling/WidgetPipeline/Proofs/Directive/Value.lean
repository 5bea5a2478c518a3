import WidgetPipeline.Proofs.Directive.Grammar
import WidgetPipeline.Proofs.Script.Reading

/-!
# The value of a directive

A value stands in parentheses right behind the name. It goes up to the last closing parenthesis of
its line, whatever parentheses stand in between, so that a line without one has no value
(`Directive.value?_eq_some_iff`, `Directive.isSome_value?_iff`). Name and value together are the
grammar of directives (`Directive.ofComment?_grammar`). The parentheses are one byte each, so that
they can be taken off by byte offsets (`Directive.unwraps_of_group?`).
-/

namespace WidgetPipeline.Directive

open Script (AtLineEnd)

variable {c : Char} {cs before rest wrapped value : List Char}

/-- The value stands in parentheses at the front of the text, and the closing one is the last on its
line. -/
def InParentheses (value rest : List Char) : Prop :=
  ∃ line after, rest = '(' :: (value ++ ')' :: (line ++ after)) ∧ '\n' ∉ value ∧ '\n' ∉ line ∧
    ')' ∉ line ∧ AtLineEnd after

/-- An opening parenthesis stands at the front of the text, and a closing one on the same line. -/
def HasParentheses (rest : List Char) : Prop :=
  ∃ line after, rest = '(' :: (line ++ after) ∧ '\n' ∉ line ∧ AtLineEnd after ∧ ')' ∈ line

/-- The bytes of the text between its first and its last byte are those of the value. Both places are
in the text and between two characters. -/
def Unwraps (wrapped value : String) : Prop :=
  ∃ first last : wrapped.Pos, first.offset.byteIdx = 1 ∧
    last.offset.byteIdx + 1 = wrapped.utf8ByteSize ∧ first ≤ last ∧
    wrapped.extract first last = value

/-! ## The last closing parenthesis of a line -/

theorem beforeLast?_eq_some_iff :
    beforeLast? c cs = some before ↔ ∃ after, cs = before ++ c :: after ∧ c ∉ after := by
  unfold beforeLast?
  constructor
  · intro h
    split at h
    · cases h
    · rename_i d front hdrop
      obtain rfl : front.reverse = before := by simpa using h
      obtain ⟨run, htake⟩ : ∃ run, cs.reverse.takeWhile (· ≠ c) = run := ⟨_, rfl⟩
      obtain ⟨hcut, hrun, hahead⟩ := Text.takeWhile_dropWhile_iff.1 ⟨htake, hdrop⟩
      obtain rfl : d = c := by simpa using hahead d rfl
      refine ⟨run.reverse, by simpa using congrArg List.reverse hcut, ?_⟩
      intro hmem
      simpa using hrun d (List.mem_reverse.1 hmem)
  · rintro ⟨after, rfl, hafter⟩
    have hrun : ∀ d ∈ after.reverse, decide (d ≠ c) = true := by
      intro d hmem
      have hne : d ≠ c := fun heq => hafter (heq ▸ List.mem_reverse.1 hmem)
      simpa using hne
    have hreverse : (before ++ c :: after).reverse = after.reverse ++ c :: before.reverse := by simp
    rw [hreverse, Text.dropWhile_run hrun (by simp)]
    simp

theorem beforeLast?_eq_none_iff : beforeLast? c cs = none ↔ c ∉ cs := by
  constructor
  · intro h hmem
    obtain ⟨front, behind, hcut, hfront⟩ := List.eq_append_cons_of_mem (List.mem_reverse.2 hmem)
    have hlast : cs = behind.reverse ++ c :: front.reverse := by
      simpa using congrArg List.reverse hcut
    have hsome := beforeLast?_eq_some_iff.2 ⟨front.reverse, hlast, by simpa using hfront⟩
    simp [h] at hsome
  · intro h
    cases hbefore : beforeLast? c cs with
    | none => rfl
    | some before =>
      obtain ⟨after, rfl, _⟩ := beforeLast?_eq_some_iff.1 hbefore
      simp at h

theorem takeWhile_line {line after : List Char} (hline : '\n' ∉ line) (ends : AtLineEnd after) :
    (line ++ after).takeWhile (· ≠ '\n') = line := by
  refine Text.takeWhile_run ?_ ?_
  · intro c hmem
    have hne : c ≠ '\n' := fun heq => hline (heq ▸ hmem)
    simpa using hne
  · rcases ends with rfl | ⟨more, rfl⟩ <;> simp

theorem exists_line (cs : List Char) :
    ∃ line after, cs = line ++ after ∧ '\n' ∉ line ∧ AtLineEnd after :=
  ⟨_, _, List.takeWhile_append_dropWhile.symm, Script.not_mem_takeWhile cs,
    Script.atLineEnd_dropWhile cs⟩

theorem unwrapped_parentheses (value : List Char) : unwrapped ('(' :: (value ++ [')'])) = value := by
  simp [unwrapped]

theorem group?_eq_some_iff :
    group? rest = some wrapped ↔
      ∃ value, wrapped = '(' :: (value ++ [')']) ∧ InParentheses value rest := by
  constructor
  · intro h
    unfold group? at h
    split at h
    · rename_i cs
      obtain ⟨value, hvalue, rfl⟩ := Option.map_eq_some_iff.1 h
      obtain ⟨line, after, rfl, hline, ends⟩ := exists_line cs
      rw [takeWhile_line hline ends] at hvalue
      obtain ⟨behind, rfl, hbehind⟩ := beforeLast?_eq_some_iff.1 hvalue
      simp only [List.mem_append, List.mem_cons, not_or] at hline
      exact ⟨value, rfl, behind, after, by simp, hline.1, hline.2.2, hbehind, ends⟩
    · cases h
  · rintro ⟨value, rfl, line, after, rfl, hvalue, hline, hlast, ends⟩
    have hcut : value ++ ')' :: (line ++ after) = (value ++ ')' :: line) ++ after := by simp
    have hsingle : '\n' ∉ value ++ ')' :: line := by simp [hvalue, hline]
    have hbefore : beforeLast? ')' (value ++ ')' :: line) = some value :=
      beforeLast?_eq_some_iff.2 ⟨line, rfl, hlast⟩
    rw [group?, hcut, takeWhile_line hsingle ends, hbefore]
    rfl

/-- The value is what stands between the first and the last parenthesis. -/
theorem value?_eq_some_iff : value? rest = some value ↔ InParentheses value rest := by
  simp only [value?, Option.map_eq_some_iff, group?_eq_some_iff]
  constructor
  · rintro ⟨wrapped, ⟨inside, rfl, h⟩, rfl⟩
    rwa [unwrapped_parentheses]
  · intro h
    exact ⟨_, ⟨value, rfl, h⟩, unwrapped_parentheses value⟩

/-- There is a value where there are parentheses. -/
theorem isSome_value?_iff : (value? rest).isSome = true ↔ HasParentheses rest := by
  simp only [Option.isSome_iff_exists, value?_eq_some_iff]
  constructor
  · rintro ⟨value, line, after, rfl, hvalue, hline, -, ends⟩
    exact ⟨value ++ ')' :: line, after, by simp, by simp [hvalue, hline], ends, by simp⟩
  · rintro ⟨line, after, rfl, hline, ends, hclose⟩
    cases hbefore : beforeLast? ')' line with
    | none => exact absurd hclose (beforeLast?_eq_none_iff.1 hbefore)
    | some value =>
      obtain ⟨behind, rfl, hbehind⟩ := beforeLast?_eq_some_iff.1 hbefore
      simp only [List.mem_append, List.mem_cons, not_or] at hline
      exact ⟨value, behind, after, by simp, hline.1, hline.2.2, hbehind, ends⟩

/-! ## Taking the parentheses off by byte offsets -/

theorem unwraps_parentheses (value : String) : Unwraps ("(" ++ value ++ ")") value := by
  have hfirst : String.Pos.Raw.IsValid ("(" ++ value ++ ")") ⟨1⟩ :=
    String.Pos.Raw.isValid_iff_exists_append.2
      ⟨"(", value ++ ")", String.append_assoc, rfl⟩
  have hlast : String.Pos.Raw.IsValid ("(" ++ value ++ ")") ⟨1 + value.utf8ByteSize⟩ :=
    String.Pos.Raw.isValid_iff_exists_append.2
      ⟨"(" ++ value, ")", rfl, by
        rw [String.Pos.Raw.ext_iff, String.byteIdx_rawEndPos, String.utf8ByteSize_append]
        rfl⟩
  refine ⟨⟨_, hfirst⟩, ⟨_, hlast⟩, rfl, ?_, ?_, ?_⟩
  · simp only [String.utf8ByteSize_append]
    rfl
  · exact Nat.le_add_right _ _
  · have hopen : (1 : Nat) = "(".toByteArray.size := rfl
    have hbehind := ByteArray.extract_append_size_add' (b := value.toByteArray ++ ")".toByteArray)
      (i := 0) (j := value.utf8ByteSize) hopen
    rw [← String.toByteArray_inj, String.toByteArray_extract, String.toByteArray_append,
      String.toByteArray_append, ByteArray.append_assoc]
    exact hbehind.trans (ByteArray.extract_append_eq_left String.size_toByteArray.symm)

/-- The parentheses of a group can be taken off by byte offsets. -/
theorem unwraps_of_group? (h : group? rest = some wrapped) :
    Unwraps (String.ofList wrapped) (String.ofList (unwrapped wrapped)) := by
  obtain ⟨value, rfl, -⟩ := group?_eq_some_iff.1 h
  have hwrapped : String.ofList ('(' :: (value ++ [')'])) = "(" ++ String.ofList value ++ ")" := by
    rw [← String.toList_inj]
    simp
  rw [hwrapped, unwrapped_parentheses]
  exact unwraps_parentheses _

/-! ## Name and value -/

/-- A value is taken out of a group, byte by byte. -/
theorem exists_group?_of_value? (h : value? rest = some value) :
    ∃ wrapped, group? rest = some wrapped ∧
      Unwraps (String.ofList wrapped) (String.ofList value) := by
  obtain ⟨wrapped, hgroup, rfl⟩ := Option.map_eq_some_iff.1 h
  exact ⟨wrapped, hgroup, unwraps_of_group? hgroup⟩

/-- The comment is a directive if behind white space it begins with an at sign and a character of a
word. The name of a directive is all of the word. It has a value if an opening parenthesis follows
the name and a closing one follows on the same line, and then the value is what stands between that
and the last closing one of the line. -/
theorem ofComment?_grammar (comment : Comment) :
    ((ofComment? comment).isSome = true ↔
      ∃ c rest, Text.trimStart comment.content.toList = '@' :: c :: rest ∧
        Text.isWordChar c = true) ∧
    ∀ directive, ofComment? comment = some directive ↔
      directive.firstLine = comment.firstLine ∧ directive.lastLine = comment.lastLine ∧
      directive.name ≠ "" ∧ (∀ c ∈ directive.name.toList, Text.isWordChar c = true) ∧
      ∃ rest, Text.trimStart comment.content.toList = '@' :: (directive.name.toList ++ rest) ∧
        (∀ c ∈ rest.head?, Text.isWordChar c = false) ∧
        (directive.value.isSome = true ↔ HasParentheses rest) ∧
        ∀ value ∈ directive.value, InParentheses value.toList rest ∧
          ∃ wrapped, group? rest = some wrapped ∧ Unwraps (String.ofList wrapped) value := by
  refine ⟨isSome_ofComment?_iff, fun directive => ⟨?_, ?_⟩⟩
  · intro h
    obtain ⟨⟨name, value⟩, hparse, rfl⟩ := Option.map_eq_some_iff.1 h
    obtain ⟨hne, hword, rest, htrim, hahead, rfl⟩ := parse?_eq_some_iff.1 hparse
    refine ⟨rfl, rfl, by simpa using hne, by simpa using hword, rest, by simpa using htrim, hahead,
      ?_, ?_⟩
    · rw [Option.isSome_map]
      exact isSome_value?_iff
    · intro text htext
      obtain ⟨value, hvalue, rfl⟩ := Option.map_eq_some_iff.1 htext
      rw [String.toList_ofList]
      exact ⟨value?_eq_some_iff.1 hvalue, exists_group?_of_value? hvalue⟩
  · rintro ⟨hfirst, hlast, hne, hword, rest, htrim, hahead, hsome, hvalue⟩
    have hparse : parse? comment.content.toList =
        some (directive.name.toList, value? rest) :=
      parse?_eq_some_iff.2 ⟨by simpa using hne, hword, rest, htrim, hahead, rfl⟩
    have hsame : (value? rest).map String.ofList = directive.value := by
      cases htext : directive.value with
      | none =>
        rw [htext, ← isSome_value?_iff] at hsome
        simpa using hsome
      | some text =>
        rw [value?_eq_some_iff.2 (hvalue text htext).1]
        simp
    simp only [ofComment?, hparse, Option.map_some, hsame, String.ofList_toList, ← hfirst, ← hlast]

/-- A parenthesis that nothing closes on its line brings no value, and what follows the last closing
one is left out. -/
example :
    ofComment? ⟨" @a((b)\r) c)d\n)", 1, 2⟩ = some ⟨"a", some "(b)\r) c", 1, 2⟩ ∧
      ofComment? ⟨"@a(b\n)", 1, 2⟩ = some ⟨"a", none, 1, 2⟩ := by
  decide +kernel

end WidgetPipeline.Directive
