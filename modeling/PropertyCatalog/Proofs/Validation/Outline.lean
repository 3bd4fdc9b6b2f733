import Mathlib.Data.List.Sort
import PropertyCatalog.Validation

/-!
# Outlines of reports

What a report says apart from its wording: the severity, the kind and the path of each issue, in
report order. The order of issues looks at nothing else, so outlines are compared before the issues
are sorted. A change of values that no type notices is not seen in the outline either
(`outline_validate_map`), although the values themselves show in the wording.
-/

namespace PropertyCatalog

namespace Issue

/-- The severity, the kind and the path of an issue. -/
def outline (i : Issue) : Severity × Finding × String := (i.severity, i.finding, i.path)

/-- The order of issues, read off their outlines. -/
def outlinePrecedes : Severity × Finding × String → Severity × Finding × String → Bool
  | (.error, _), (.warning, _) => true
  | (.warning, _), (.error, _) => false
  | (_, _, path), (_, _, path') => path ≤ path'

theorem precedes_eq_outlinePrecedes (i j : Issue) :
    i.precedes j = outlinePrecedes i.outline j.outline := by
  rw [precedes, outline, outline]
  cases i.severity <;> cases j.severity <;> rfl

theorem map_outline_mergeSort (issues : List Issue) :
    (issues.mergeSort precedes).map outline = (issues.map outline).mergeSort outlinePrecedes :=
  List.map_mergeSort fun i _ j _ ↦ precedes_eq_outlinePrecedes i j

end Issue

namespace Report

/-- The outlines of the issues, in report order. -/
def outline (r : Report) : List (Severity × Finding × String) := r.issues.map Issue.outline

theorem isValid_eq_outline (r : Report) : r.isValid = r.outline.all (·.1 ≠ .error) := by
  rw [isValid, outline, List.all_map]
  rfl

theorem map_outline_warnings (r : Report) :
    r.warnings.map Issue.outline = r.outline.filter (·.1 = .warning) := by
  rw [warnings, outline, List.filter_map]
  rfl

end Report

/-! ## Changing values -/

section Change

variable {f : BoundValue → BoundValue}

theorem Property.isBound_map (p : Property) (f : BoundValue → BoundValue) (values : BoundValues) :
    p.isBound (values.map f) = p.isBound values := by
  rw [isBound, isBound, TextMap.contains, TextMap.get?_map, Option.isSome_map, TextMap.contains,
    TextMap.firstFrom?, TextMap.map, List.find?_map, Option.any_map]
  rfl

namespace Catalog

variable (hf : ∀ value type members, (f value).coercesTo type members
  = BoundValue.coercesTo value type members)

include hf

theorem map_outline_valueIssue? (c : Catalog) (path : String) (value : BoundValue) :
    (c.valueIssue? path (f value)).map Issue.outline
      = (c.valueIssue? path value).map Issue.outline := by
  rw [valueIssue?, valueIssue?]
  cases c.get? path with
  | none => rfl
  | some p =>
    -- the two issues differ in what they say of the value, and the outline leaves that out
    simp only [hf, apply_ite (Option.map Issue.outline), Option.map_none, Option.map_some,
      Issue.outline, Issue.severity]

/-- Values that each type takes or refuses as before are reported as before. -/
theorem outline_validate_map (c : Catalog) (values : BoundValues) :
    (c.validate (values.map f)).outline = (c.validate values).outline := by
  have hmissing : missingIssue? (values.map f) = missingIssue? values := by
    funext p
    rw [missingIssue?, p.isBound_map, missingIssue?]
  have hbound : ((values.map f).entries.filterMap fun e ↦ c.valueIssue? e.1 e.2).map Issue.outline
      = (values.entries.filterMap fun e ↦ c.valueIssue? e.1 e.2).map Issue.outline := by
    rw [TextMap.map, List.filterMap_map, List.map_filterMap, List.map_filterMap]
    exact List.filterMap_congr fun e _ ↦ map_outline_valueIssue? hf c e.1 e.2
  rw [Report.outline, Report.outline, validate, validate, Issue.map_outline_mergeSort,
    Issue.map_outline_mergeSort, List.map_append, List.map_append, hmissing, hbound]

end Catalog

end Change

end PropertyCatalog
