import Mathlib.Data.List.Flatten
import WidgetPipeline.Proofs.OrderedMap
import WidgetPipeline.Proofs.Reference.Resolution

/-!
# Resolving with larger tables

Tables extend others if they have every entry of them (`ReferenceTables.Extends`). Which references a
text has does not depend on the tables, so two resolutions of one text are compared reference by
reference (`resolveInner_atLeast`): an entry that is new turns a miss into a find, but no find into
another. So larger tables report no more than smaller ones and keep what was found
(`resolveReferences_extends`).
-/

namespace WidgetPipeline

/-- The second tables have every entry of the first, and the same configuration and gateway. -/
structure ReferenceTables.Extends (tables more : ReferenceTables) : Prop where
  config : more.config = tables.config
  gateway : more.gateway = tables.gateway
  modules : tables.modules.toList ⊆ more.modules.toList
  assets : tables.assets.toList ⊆ more.assets.toList
  aliases : tables.aliases.toList ⊆ more.aliases.toList

namespace Reference

/-- The second resolution reports at most what the first does, and has the same text if that reports
nothing. -/
structure Resolution.AtLeast (resolution better : Resolution) : Prop where
  logs : better.logs.Sublist resolution.logs
  text : resolution.logs = [] → better.text = resolution.text

variable {tables more : ReferenceTables} {inner : List Char} {path : List String}

namespace Resolution.AtLeast

theorem refl (resolution : Resolution) : resolution.AtLeast resolution :=
  ⟨List.Sublist.refl _, fun _ => rfl⟩

/-- Nothing is worse than a miss, as long as no other miss is reported. -/
theorem of_miss {resolution better : Resolution} {miss : Miss} (h : resolution.miss = some miss)
    (hbetter : better.miss = none ∨ better.miss = some miss) : resolution.AtLeast better := by
  have hlogs : resolution.logs = [.warn miss.message] := by simp [Resolution.logs, h]
  constructor
  · rcases hbetter with hnone | hsome
    · simp [Resolution.logs, hnone]
    · simp [Resolution.logs, hsome, h]
  · simp [hlogs]

end Resolution.AtLeast

/-! ## One reference -/

theorem resolveModule_atLeast {modules others : OrderedMap String Unit}
    (h : modules.toList ⊆ others.toList) (account : String) (path : List String) :
    (resolveModule modules account path).AtLeast (resolveModule others account path) := by
  cases hget : modules.get? (joinSegments '.' path) with
  | some value =>
    have hothers := OrderedMap.get?_of_subset h hget
    simp only [resolveModule, OrderedMap.contains, hget, hothers]
    exact .refl _
  | none =>
    simp only [resolveModule, OrderedMap.contains, hget]
    refine .of_miss rfl ?_
    by_cases hothers : (others.get? (joinSegments '.' path)).isSome
    · exact .inl (if_pos hothers)
    · exact .inr (if_neg hothers)

theorem resolveAsset_atLeast {assets others : OrderedMap String String}
    (h : assets.toList ⊆ others.toList) (gateway : String) (path : List String) :
    (resolveAsset assets gateway path).AtLeast (resolveAsset others gateway path) := by
  cases hget : assets.get? (joinSegments '/' path) with
  | some address =>
    simp only [resolveAsset, hget, OrderedMap.get?_of_subset h hget]
    exact .refl _
  | none =>
    simp only [resolveAsset, hget]
    refine .of_miss rfl ?_
    cases others.get? (joinSegments '/' path) with
    | some address => exact .inl rfl
    | none => exact .inr rfl

theorem resolveAlias_atLeast {aliases others : OrderedMap String String}
    (h : aliases.toList ⊆ others.toList) (path : List String) :
    (resolveAlias aliases path).AtLeast (resolveAlias others path) := by
  cases hget : aliases.get? (joinSegments '/' path) with
  | some text =>
    simp only [resolveAlias, hget, OrderedMap.get?_of_subset h hget]
    exact .refl _
  | none =>
    simp only [resolveAlias, hget]
    refine .of_miss rfl ?_
    cases others.get? (joinSegments '/' path) with
    | some text => exact .inl rfl
    | none => exact .inr rfl

theorem deployAccount_of_config_eq (h : more.config = tables.config) :
    more.deployAccount = tables.deployAccount := by
  rw [ReferenceTables.deployAccount, ReferenceTables.deployAccount, h]

theorem Keyword.resolve_atLeast (h : tables.Extends more) (keyword : Keyword)
    (path : List String) :
    (keyword.resolve tables path).AtLeast (keyword.resolve more path) := by
  cases keyword with
  | config =>
    simp only [resolve, h.config]
    exact .refl _
  | module =>
    simp only [resolve, deployAccount_of_config_eq h.config]
    exact resolveModule_atLeast h.modules _ path
  | ipfs =>
    simp only [resolve, h.gateway]
    exact resolveAsset_atLeast h.assets _ path
  | _ => exact resolveAlias_atLeast h.aliases path

theorem resolveInner_atLeast (h : tables.Extends more) (inner : List Char) :
    (resolveInner tables inner).AtLeast (resolveInner more inner) := by
  obtain ⟨name, path, segments⟩ := exists_segments inner
  rw [resolveInner_of_segments segments, resolveInner_of_segments segments]
  cases Keyword.ofName? name with
  | some keyword => exact keyword.resolve_atLeast h path
  | none => exact .refl _

/-- The address of a module does not depend on which modules there are. -/
theorem resolveInner_module (h : tables.Extends more)
    (segments : Segments inner Keyword.module.name path) :
    (resolveInner more inner).text = (resolveInner tables inner).text := by
  rw [resolveInner_of_segments segments, resolveInner_of_segments segments, Keyword.ofName?_name]
  simp only [Keyword.resolve, resolveModule, deployAccount_of_config_eq h.config]

/-- Neither does any other text. -/
theorem text_resolveInner_modules (tables : ReferenceTables) (modules : OrderedMap String Unit)
    (inner : List Char) :
    (resolveInner { tables with modules } inner).text = (resolveInner tables inner).text := by
  obtain ⟨name, path, segments⟩ := exists_segments inner
  rw [resolveInner_of_segments segments, resolveInner_of_segments segments]
  cases Keyword.ofName? name with
  | some keyword => cases keyword <;> rfl
  | none => rfl

/-! ## A text -/

/-- With larger tables nothing new is reported of a text. The references in it are the same, those
that were found before and all modules keep their replacement, and which modules there are does not
show in the text at all. -/
theorem resolveReferences_extends (h : tables.Extends more) (code : String) :
    (resolveReferences more code).logs.Sublist (resolveReferences tables code).logs ∧
      (∃ parts last, Splits code.toList parts last ∧
        (resolveReferences tables code).code.toList =
          parts.flatMap (fun part => part.before ++ (resolveInner tables part.inner).text.toList) ++
            last ∧
        (resolveReferences more code).code.toList =
          parts.flatMap (fun part => part.before ++ (resolveInner more part.inner).text.toList) ++
            last ∧
        ∀ part ∈ parts, ((resolveInner tables part.inner).logs = [] ∨
            ∃ path, Segments part.inner Keyword.module.name path) →
          (resolveInner more part.inner).text = (resolveInner tables part.inner).text) ∧
      ∀ modules, (resolveReferences { tables with modules } code).code =
        (resolveReferences tables code).code := by
  obtain ⟨parts, last, splits, -⟩ := exists_splits code.toList
  obtain ⟨hcode, hlogs⟩ := resolveReferences_of_splits splits tables
  obtain ⟨hcodeMore, hlogsMore⟩ := resolveReferences_of_splits splits more
  refine ⟨?_, ⟨parts, last, splits, hcode, hcodeMore, ?_⟩, ?_⟩
  · rw [hlogs, hlogsMore]
    exact .flatMap_right parts fun part _ => (resolveInner_atLeast h part.inner).logs
  · intro part _ hkept
    rcases hkept with hfound | ⟨path, segments⟩
    · exact (resolveInner_atLeast h part.inner).text hfound
    · exact resolveInner_module h segments
  · intro modules
    have hcodeModules := (resolveReferences_of_splits splits { tables with modules }).1
    simp only [text_resolveInner_modules] at hcodeModules
    rw [← String.toList_inj, hcode, hcodeModules]

/-- A module and an alias. -/
def fewEntries : ReferenceTables where
  modules := ⟨[("m", ())], by decide⟩
  aliases := ⟨[("n", "m")], by decide⟩

/-- The same with another module, an asset, and an alias in front. -/
def moreEntries : ReferenceTables where
  modules := ⟨[("k", ()), ("m", ())], by decide⟩
  assets := ⟨[("b", "c")], by decide⟩
  aliases := ⟨[("l", "w"), ("n", "m")], by decide⟩

/-- A reference that is found in both tables, three that only the larger have, and one that is in
neither. -/
def mixedReferences : String :=
  "@\x7balias/n\x7d@\x7bmodule/k\x7d@\x7balias/l\x7d@\x7bconfig/c\x7d@\x7bipfs/b\x7d"

theorem resolveReferences_extends_moreEntries :
    fewEntries.Extends moreEntries ∧
      (resolveReferences moreEntries mixedReferences).logs.Sublist
        [.warn "Imported module not found locally: @\x7bmodule/k\x7d",
          .warn "Imported alias not found: @\x7balias/l\x7d",
          .warn "Config value not found: @\x7bconfig/c\x7d",
          .warn "IPFS file or mapping not found: @\x7bipfs/b\x7d"] ∧
      (resolveReferences { fewEntries with modules := moreEntries.modules } mixedReferences).code =
        "m/widget/k.module@\x7balias/l\x7d@\x7bconfig/c\x7d@\x7bipfs/b\x7d" := by
  have extended : fewEntries.Extends moreEntries := ⟨rfl, rfl, by decide, by decide, by decide⟩
  obtain ⟨logs, _, modules⟩ := resolveReferences_extends extended mixedReferences
  have hfew : resolveReferences fewEntries mixedReferences =
      { code := "m/widget/k.module@\x7balias/l\x7d@\x7bconfig/c\x7d@\x7bipfs/b\x7d"
        logs :=
          [.warn "Imported module not found locally: @\x7bmodule/k\x7d",
            .warn "Imported alias not found: @\x7balias/l\x7d",
            .warn "Config value not found: @\x7bconfig/c\x7d",
            .warn "IPFS file or mapping not found: @\x7bipfs/b\x7d"] } := by
    decide +kernel
  rw [hfew] at logs modules
  exact ⟨extended, logs, modules moreEntries.modules⟩

end Reference

end WidgetPipeline
