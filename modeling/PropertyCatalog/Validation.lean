import PropertyCatalog.Catalog

/-!
# Validation

Bound values are checked against a catalog, and every finding goes into one report: a property that
has to be bound and is not, a value that its property does not take, and a value bound to a path that
the catalog does not know. The last is a warning only. Errors come before warnings, and each are in
the order of paths.
-/

namespace PropertyCatalog

/-! ## Findings -/

/-- How much a finding weighs. -/
inductive Severity where
  /-- The configuration must not be used. -/
  | error
  /-- The configuration may be used. -/
  | warning
deriving DecidableEq

def Severity.name : Severity → String
  | error => "error"
  | warning => "warning"

/-- What was found. -/
inductive Finding where
  /-- A property that has to be bound has no value. -/
  | missingRequired
  /-- The value is not taken by the type of the property. -/
  | typeMismatch (expected : SemanticType)
  /-- No property has the path. -/
  | unknownProperty
deriving DecidableEq

namespace Finding

def severity : Finding → Severity
  | missingRequired | typeMismatch _ => .error
  | unknownProperty => .warning

def kind : Finding → String
  | missingRequired => "missing-required"
  | typeMismatch _ => "type-mismatch"
  | unknownProperty => "unknown-property"

/-- The type that was expected, where that is what was found. -/
def expected? : Finding → Option SemanticType
  | typeMismatch expected => some expected
  | _ => none

end Finding

/-- A finding at a path, with what is said about it. -/
structure Issue where
  /-- What was found. -/
  finding : Finding
  /-- Where it was found. -/
  path : String
  /-- What is said about it. -/
  detail : String
deriving DecidableEq

namespace Issue

def severity (i : Issue) : Severity := i.finding.severity

/-- Errors stand before warnings, and issues of one severity in the order of paths. The kind of
finding would come third, but no path has two issues in one report (`nodup_paths_validate`), so it
never decides. -/
def precedes (i j : Issue) : Bool :=
  match i.severity, j.severity with
  | .error, .warning => true
  | .warning, .error => false
  | _, _ => i.path ≤ j.path

end Issue

/-! ## Reports -/

/-- All findings about some bound values, in report order. -/
structure Report where
  /-- The issues. -/
  issues : List Issue
deriving DecidableEq

namespace Report

def errors (r : Report) : List Issue := r.issues.filter (·.severity = .error)

def warnings (r : Report) : List Issue := r.issues.filter (·.severity = .warning)

def isValid (r : Report) : Bool := r.issues.all (·.severity ≠ .error)

def isEmpty (r : Report) : Bool := r.issues.isEmpty

end Report

/-! ## Checks -/

/-- The property counts as bound: a value stands at its path, or it refers to a group and a value
stands beneath its path. The paths beneath it are neighbours in the order of keys, so the first key
from there on decides. -/
def Property.isBound (p : Property) (values : BoundValues) : Bool :=
  values.contains p.path ||
    p.semanticType = .group &&
      (values.firstFrom? (PropertyPath.stem p.path)).any (PropertyPath.isBeneath p.path ·.1)

/-- What is said of a value that the property does not take. -/
def Property.mismatchDetail (p : Property) (value : String) : String :=
  match p.semanticType with
  | .enum => Text.quote value ++ " is not one of [" ++ ", ".intercalate p.members ++ "]"
  | .group => p.path ++ " is a group and cannot hold a value; set its properties instead"
  | type => Text.quote value ++ " is not a valid " ++ type.name

namespace Catalog

/-- The issue of a property that has to be bound and is not. -/
def missingIssue? (values : BoundValues) (p : Property) : Option Issue :=
  if p.required && !p.isBound values then
    some ⟨.missingRequired, p.path, p.path ++ " is required but has no value"⟩
  else none

/-- The issue of a bound value, if there is one. -/
def valueIssue? (c : Catalog) (path : String) (value : BoundValue) : Option Issue :=
  match c.get? path with
  | some p =>
    if value.coercesTo p.semanticType p.members then none
    else some ⟨.typeMismatch p.semanticType, path, p.mismatchDetail value.display⟩
  | none => some ⟨.unknownProperty, path, path ++ " is not a known configuration property"⟩

/-- The report on bound values. -/
def validate (c : Catalog) (values : BoundValues) : Report :=
  let missing := c.properties.filterMap (missingIssue? values)
  let bound := values.entries.filterMap fun (path, value) ↦ c.valueIssue? path value
  ⟨(missing ++ bound).mergeSort Issue.precedes⟩

end Catalog

end PropertyCatalog
