import WidgetPipeline.Json.Basic

/-!
Reference tables: what the references in a source text may name. They are given by the caller and
are the same for every reference of a run.
-/

namespace WidgetPipeline

/-- The tables against which references are resolved. -/
structure ReferenceTables where
  config : Json := .null
  /-- The dotted paths of the modules that are known to exist. -/
  modules : OrderedMap String Unit := ∅
  /-- Content addresses by the path of the asset, its segments joined by slashes. -/
  assets : OrderedMap String String := ∅
  /-- The address under which assets are served. -/
  gateway : String := ""
  /-- Replacement texts by the path of the alias, its segments joined by slashes. -/
  aliases : OrderedMap String String := ∅

/-- The account that deploys the widgets: the string at `accounts` and then `deploy` in the
configuration tree, or nothing. -/
def ReferenceTables.deployAccount (tables : ReferenceTables) : String :=
  let account := ((tables.config.get? "accounts").bind (·.get? "deploy")).bind Json.string?
  account.getD ""

end WidgetPipeline
