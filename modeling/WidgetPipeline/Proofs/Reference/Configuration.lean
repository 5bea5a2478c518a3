import Mathlib.Data.List.Forall2
import WidgetPipeline.Proofs.OrderedMap
import WidgetPipeline.Proofs.Reference.Again
import WidgetPipeline.Proofs.Reference.Misses
import WidgetPipeline.Proofs.Text.Decimal

/-!
# References into the configuration

What a path in the configuration tree names is said here without the function that looks it up:
steps lead from a value to the values in it (`Json.Subvalue`), and a segment names the step to a key
that is spelled like it or to a position that it spells (`Json.Step.NamedBy`). A path leads to a
value that way or breaks off (`Json.Breaks`), and it is found or missed accordingly
(`foldlM_child?_eq_some_iff`, `foldlM_child?_eq_none_iff`). So every value in the tree can be
referred to, and nothing else can (`resolveReferences_config`).
-/

namespace WidgetPipeline

/-! ## Values in a tree -/

namespace Json

/-- A step from a value into it: the key of an object, or a position in an array, counted from 0. -/
inductive Step where
  | key (name : String)
  | position (n : Nat)
deriving DecidableEq, Repr

/-- The segment for a step: the key itself, or the position in decimal digits. -/
def Step.segment : Step → String
  | .key name => name
  | .position n => String.ofList (Nat.toDigits 10 n)

/-- The segment is one for the step. A position may have a plus sign and zeros in front. -/
inductive Step.NamedBy : Step → String → Prop
  | key (name : String) : NamedBy (.key name) name
  | position {n : Nat} {segment : String} (spells : Text.Spells segment.toList n) :
      NamedBy (.position n) segment

/-- The value that one step leads to. Positions are words of 64 bits, as no array has more items. -/
inductive Child : Json → Step → Json → Prop
  | key {fields : List (String × Json)} {name : String} {child : Json}
      (field : fields.lookup name = some child) : Child (.object fields) (.key name) child
  | position {items : List Json} {n : Nat} {child : Json} (item : items[n]? = some child)
      (word : n < Text.wordLimit) : Child (.array items) (.position n) child

/-- The value that a chain of steps leads to. -/
inductive Subvalue : Json → List Step → Json → Prop
  | here {value : Json} : Subvalue value [] value
  | further {tree child value : Json} {step : Step} {steps : List Step}
      (first : Child tree step child) (rest : Subvalue child steps value) :
      Subvalue tree (step :: steps) value

/-- Whether the value has no values in it by its kind. -/
def isScalar : Json → Bool
  | .array _ => false
  | .object _ => false
  | _ => true

/-- The segment names no step from the value. -/
inductive Stuck : Json → String → Prop
  | scalar {value : Json} {segment : String} (scalar : value.isScalar = true) : Stuck value segment
  | missingKey {fields : List (String × Json)} {segment : String}
      (missing : ∀ field ∈ fields, field.1 ≠ segment) : Stuck (.object fields) segment
  | noPosition {items : List Json} {segment : String}
      (unspelled : ∀ n, ¬ Text.Spells segment.toList n) : Stuck (.array items) segment
  | outside {items : List Json} {segment : String} {n : Nat}
      (spells : Text.Spells segment.toList n) (outside : items.length ≤ n) :
      Stuck (.array items) segment
  | overflow {items : List Json} {segment : String} {n : Nat}
      (spells : Text.Spells segment.toList n) (overflow : Text.wordLimit ≤ n) :
      Stuck (.array items) segment

/-- The path breaks off: one of its segments names no step from the value that those in front of it
lead to. -/
inductive Breaks : Json → List String → Prop
  | here {tree : Json} {segment : String} {path : List String} (stuck : Stuck tree segment) :
      Breaks tree (segment :: path)
  | further {tree child : Json} {step : Step} {segment : String} {path : List String}
      (named : step.NamedBy segment) (first : Child tree step child) (rest : Breaks child path) :
      Breaks tree (segment :: path)

theorem Step.namedBy_segment (step : Step) : step.NamedBy step.segment := by
  cases step with
  | key name => exact .key name
  | position n =>
    refine .position ?_
    rw [segment, String.toList_ofList]
    exact Text.spells_toDigits n

/-- In a segment there are digits only, besides what is in keys. -/
theorem Step.not_mem_segment {c : Char} (hdigit : c.isDigit = false) {step : Step}
    (hkey : ∀ name, step = .key name → c ∉ name.toList) : c ∉ step.segment.toList := by
  cases step with
  | key name => exact hkey name rfl
  | position n =>
    intro hmem
    rw [segment, String.toList_ofList] at hmem
    rw [Text.isDigit_of_mem_toDigits c hmem] at hdigit
    contradiction

theorem Step.segment_eq_account {step : Step} (h : step.segment = "account") :
    step = .key "account" := by
  cases step with
  | key name => exact congrArg Step.key h
  | position n =>
    have hletter : 'a' ∉ (Step.position n).segment.toList :=
      Step.not_mem_segment (by decide) (by simp)
    exact absurd (by rw [h]; decide) hletter

end Json

namespace Reference

open Json

variable {tables : ReferenceTables} {tree child value : Json} {segment : String}
  {path : List String} {inner : List Char}

/-! ## Looking up a path -/

theorem child?_eq_some_iff :
    child? tree segment = some child ↔
      ∃ step : Step, step.NamedBy segment ∧ Child tree step child := by
  constructor
  · intro h
    cases tree with
    | object fields =>
      rw [child?, Entries.find?_eq_lookup] at h
      exact ⟨.key segment, .key segment, .key h⟩
    | array items =>
      obtain ⟨n, hread, hitem⟩ := Option.bind_eq_some_iff.1 h
      obtain ⟨spells, word⟩ := Text.readUnsigned64?_eq_some_iff.1 hread
      exact ⟨.position n, .position spells, .position hitem word⟩
    | _ => simp [child?] at h
  · rintro ⟨step, named, hchild⟩
    cases hchild with
    | key field =>
      cases named
      rw [child?, Entries.find?_eq_lookup, field]
    | position item word =>
      cases named with
      | position spells =>
        rw [child?, Text.readUnsigned64?_eq_some_iff.2 ⟨spells, word⟩, Option.bind_some, item]

theorem child?_eq_none_iff : child? tree segment = none ↔ Stuck tree segment := by
  constructor
  · intro h
    cases tree with
    | object fields =>
      rw [child?, Entries.find?_eq_lookup, List.lookup_eq_none_iff] at h
      refine .missingKey fun field hmem heq => ?_
      simpa [heq] using h field hmem
    | array items =>
      by_cases hspells : ∃ n, Text.Spells segment.toList n
      · obtain ⟨n, spells⟩ := hspells
        by_cases hword : n < Text.wordLimit
        · rw [child?, Text.readUnsigned64?_eq_some_iff.2 ⟨spells, hword⟩, Option.bind_some,
            List.getElem?_eq_none_iff] at h
          exact .outside spells h
        · exact .overflow spells (Nat.le_of_not_lt hword)
      · exact .noPosition fun n spells => hspells ⟨n, spells⟩
    | _ => exact .scalar rfl
  · intro h
    cases h with
    | scalar scalar =>
      cases tree with
      | object => contradiction
      | array => contradiction
      | _ => rfl
    | missingKey missing =>
      rw [child?, Entries.find?_eq_lookup, List.lookup_eq_none_iff]
      exact fun field hmem => bne_iff_ne.2 (Ne.symm (missing field hmem))
    | noPosition unspelled =>
      refine Option.bind_eq_none_iff.2 fun n hread => ?_
      exact absurd (Text.readUnsigned64?_eq_some_iff.1 hread).1 (unspelled n)
    | outside spells outside =>
      refine Option.bind_eq_none_iff.2 fun n hread => ?_
      obtain rfl := spells.unique (Text.readUnsigned64?_eq_some_iff.1 hread).1
      exact List.getElem?_eq_none_iff.2 outside
    | overflow spells overflow =>
      refine Option.bind_eq_none_iff.2 fun n hread => ?_
      obtain ⟨spells', word⟩ := Text.readUnsigned64?_eq_some_iff.1 hread
      obtain rfl := spells.unique spells'
      exact absurd word (Nat.not_lt_of_le overflow)

/-- Following a path finds the values that steps for its segments lead to. -/
theorem foldlM_child?_eq_some_iff :
    path.foldlM child? tree = some value ↔
      ∃ steps, List.Forall₂ Step.NamedBy steps path ∧ Subvalue tree steps value := by
  induction path generalizing tree with
  | nil =>
    constructor
    · intro h
      obtain rfl : tree = value := by simpa using h
      exact ⟨[], .nil, .here⟩
    · rintro ⟨steps, named, hsub⟩
      cases named
      cases hsub
      rfl
  | cons segment path ih =>
    rw [List.foldlM_cons, Option.bind_eq_bind, Option.bind_eq_some_iff]
    constructor
    · rintro ⟨child, hchild, hrest⟩
      obtain ⟨step, named, first⟩ := child?_eq_some_iff.1 hchild
      obtain ⟨steps, namedRest, rest⟩ := ih.1 hrest
      exact ⟨step :: steps, .cons named namedRest, .further first rest⟩
    · rintro ⟨steps, named, hsub⟩
      cases named with
      | cons named namedRest =>
        cases hsub with
        | further first rest =>
          exact ⟨_, child?_eq_some_iff.2 ⟨_, named, first⟩, ih.2 ⟨_, namedRest, rest⟩⟩

/-- Nothing is found at the end of a path if and only if it breaks off. -/
theorem foldlM_child?_eq_none_iff : path.foldlM child? tree = none ↔ Breaks tree path := by
  induction path generalizing tree with
  | nil =>
    refine ⟨fun h => by simp at h, fun h => ?_⟩
    cases h
  | cons segment path ih =>
    rw [List.foldlM_cons, Option.bind_eq_bind]
    constructor
    · intro h
      cases hchild : child? tree segment with
      | none => exact .here (child?_eq_none_iff.1 hchild)
      | some child =>
        obtain ⟨step, named, first⟩ := child?_eq_some_iff.1 hchild
        rw [hchild, Option.bind_some] at h
        exact .further named first (ih.1 h)
    · intro h
      cases h with
      | here stuck => rw [child?_eq_none_iff.2 stuck, Option.bind_none]
      | further named first rest =>
        rw [child?_eq_some_iff.2 ⟨_, named, first⟩, Option.bind_some, ih.2 rest]

theorem lookup?_eq_some_iff :
    lookup? tree path = some value ↔
      path ≠ [] ∧ ∃ steps, List.Forall₂ Step.NamedBy steps path ∧ Subvalue tree steps value := by
  rw [← foldlM_child?_eq_some_iff]
  cases path <;> simp [lookup?]

theorem lookup?_eq_none_iff : lookup? tree path = none ↔ path = [] ∨ Breaks tree path := by
  rw [← foldlM_child?_eq_none_iff]
  cases path <;> simp [lookup?]

/-! ## The path of a chain of steps -/

variable {steps : List Step}

theorem lookup?_of_subvalue (hne : steps ≠ []) (hsub : Subvalue tree steps value) :
    lookup? tree (steps.map Step.segment) = some value := by
  refine lookup?_eq_some_iff.2 ⟨by simpa using hne, steps, ?_, hsub⟩
  exact List.forall₂_map_right_iff.2 (List.forall₂_same.2 fun step _ => step.namedBy_segment)

/-- Segments have a character that is not a digit from a key. -/
theorem not_mem_of_mem_segments {c : Char} (hdigit : c.isDigit = false)
    (hkeys : ∀ name, .key name ∈ steps → c ∉ name.toList) :
    ∀ segment ∈ steps.map Step.segment, c ∉ segment.toList := by
  intro segment hmem
  obtain ⟨step, hstep, rfl⟩ := List.mem_map.1 hmem
  exact Step.not_mem_segment hdigit fun name heq => hkeys name (heq ▸ hstep)

theorem head?_segments_ne_account (h : steps.head? ≠ some (.key "account")) :
    (steps.map Step.segment).head? ≠ some "account" := by
  intro haccount
  rw [List.head?_map] at haccount
  obtain ⟨step, hstep, hsegment⟩ := Option.map_eq_some_iff.1 haccount
  exact h (Step.segment_eq_account hsegment ▸ hstep)

/-! ## Resolving a reference -/

theorem resolveInner_config (segments : Segments inner Keyword.config.name path)
    (notShort : path.head? ≠ some "account") :
    resolveInner tables inner =
      match lookup? tables.config path with
      | some value => { text := valueText value }
      | none =>
        { text := wrap (joinSegments '/' path) Keyword.config.name
          miss := some (.absent .config (wrap (joinSegments '/' path) Keyword.config.name)) } := by
  rw [resolveInner_of_segments segments, Keyword.ofName?_name]
  cases hlookup : lookup? tables.config path <;>
    simp [Keyword.resolve, resolveConfig, configPath_eq notShort, hlookup]

theorem logs_config (segments : Segments inner Keyword.config.name path)
    (notShort : path.head? ≠ some "account") :
    (resolveInner tables inner).logs = [] ↔ lookup? tables.config path ≠ none := by
  rw [resolveInner_config segments notShort]
  cases lookup? tables.config path <;> simp [Resolution.logs]

/-- A text that is one reference gives way to its replacement. -/
theorem resolveReferences_expression (isInner : IsInner inner) :
    resolveReferences tables (String.ofList (expression inner)) =
      { code := (resolveInner tables inner).text, logs := (resolveInner tables inner).logs } := by
  simp [resolveReferences, isInner.pieces_eq, Piece.resolve]

/-- Every value in the configuration is what the reference with the steps to it resolves to. A
reference is not found if and only if its path is empty or breaks off, and then it leaves the
expression for its path and is reported. -/
theorem resolveReferences_config (tables : ReferenceTables) :
    (∀ steps value, steps ≠ [] → Subvalue tables.config steps value →
      (∀ name, .key name ∈ steps → '/' ∉ name.toList ∧ '}' ∉ name.toList) →
      steps.head? ≠ some (.key "account") →
      resolveReferences tables
          ("@\x7bconfig/" ++ joinSegments '/' (steps.map Step.segment) ++ "\x7d") =
        { code := valueText value, logs := [] }) ∧
    ∀ inner path, Segments inner "config" path → path.head? ≠ some "account" →
      ((resolveInner tables inner).logs = [] ↔ path ≠ [] ∧
        ∃ steps value, List.Forall₂ Step.NamedBy steps path ∧
          Subvalue tables.config steps value ∧
          (resolveInner tables inner).text = valueText value) ∧
      (path = [] ∨ Breaks tables.config path ↔
        (resolveInner tables inner).text = wrap (joinSegments '/' path) "config" ∧
        (resolveInner tables inner).logs =
          [.warn ("Config value not found: " ++ wrap (joinSegments '/' path) "config")]) := by
  constructor
  · intro steps value hne hsub hkeys hhead
    have hslash := not_mem_of_mem_segments (by decide) fun name hmem => (hkeys name hmem).1
    have hbrace := not_mem_of_mem_segments (by decide) fun name hmem => (hkeys name hmem).2
    have segments : Segments (placeholder .config (steps.map Step.segment)) Keyword.config.name
        (steps.map Step.segment) := segments_placeholder (by simpa using hne) hslash
    have hcode : "@\x7bconfig/" ++ joinSegments '/' (steps.map Step.segment) ++ "\x7d" =
        String.ofList (expression (placeholder .config (steps.map Step.segment))) := by
      rw [← String.toList_inj]
      simp [expression, placeholder, Keyword.name]
    rw [hcode, resolveReferences_expression (isInner_placeholder hbrace),
      resolveInner_config segments (head?_segments_ne_account hhead), lookup?_of_subvalue hne hsub]
    rfl
  · intro inner path segments notShort
    constructor
    · constructor
      · intro hlogs
        obtain ⟨value, hvalue⟩ :=
          Option.ne_none_iff_exists'.1 ((logs_config segments notShort).1 hlogs)
        obtain ⟨hne, steps, named, hsub⟩ := lookup?_eq_some_iff.1 hvalue
        refine ⟨hne, steps, value, named, hsub, ?_⟩
        rw [resolveInner_config segments notShort, hvalue]
      · rintro ⟨hne, steps, value, named, hsub, _⟩
        have hvalue := lookup?_eq_some_iff.2 ⟨hne, steps, named, hsub⟩
        exact (logs_config segments notShort).2 (by simp [hvalue])
    · rw [← lookup?_eq_none_iff]
      constructor
      · intro hnone
        rw [resolveInner_config segments notShort, hnone]
        exact ⟨rfl, rfl⟩
      · rintro ⟨_, hlogs⟩
        by_cases hnone : lookup? tables.config path = none
        · exact hnone
        · rw [(logs_config segments notShort).2 hnone] at hlogs
          contradiction

/-- An object in an array in an object, with an empty key and one that opens a reference. -/
def nestedTree : ReferenceTables where
  config :=
    .object [("", .array [.null, .object [("7", .string "v"), ("@\x7b", .array [.bool true])]])]

theorem resolveReferences_config_nestedTree :
    resolveReferences nestedTree "@\x7bconfig//1/@\x7b\x7d" = { code := "[true]", logs := [] } ∧
      (resolveInner nestedTree "config//18446744073709551616/7".toList).logs =
        [.warn "Config value not found: @\x7bconfig//18446744073709551616/7\x7d"] := by
  obtain ⟨found, missed⟩ := resolveReferences_config nestedTree
  constructor
  · have htext : "@\x7bconfig//1/@\x7b\x7d" = "@\x7bconfig/" ++ joinSegments '/'
        ([Step.key "", .position 1, .key "@\x7b"].map Step.segment) ++ "\x7d" := by
      decide +kernel
    rw [htext, found [.key "", .position 1, .key "@\x7b"] (.array [.bool true]) (by simp) ?_ ?_
      (by simp)]
    · decide +kernel
    · exact .further (.key rfl) (.further (.position rfl (by decide)) (.further (.key rfl) .here))
    · simp
  · have spells : Text.Spells "18446744073709551616".toList Text.wordLimit :=
      ⟨_, .inl rfl, by decide +kernel, List.all_eq_true.1 (by decide +kernel), by decide +kernel⟩
    have breaks : Breaks nestedTree.config ["", "18446744073709551616", "7"] :=
      .further (.key "") (.key rfl) (.here (.overflow spells (Nat.le_refl _)))
    have segments : Segments "config//18446744073709551616/7".toList "config"
        ["", "18446744073709551616", "7"] := segments_iff.2 (by decide +kernel)
    rw [((missed _ _ segments (by simp)).2.1 (.inr breaks)).2]
    decide +kernel

end Reference

end WidgetPipeline
