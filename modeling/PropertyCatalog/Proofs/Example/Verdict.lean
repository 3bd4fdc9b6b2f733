import Mathlib.Data.List.Nodup
import PropertyCatalog.Proofs.Example.RoundTrip
import PropertyCatalog.Proofs.Validation.Report

/-!
# The verdict on an example file

An example file is meant to be a valid start. What stands for a value is taken by the type of its
property, with two exceptions: a reference to a group takes no value at all, and without a default
there is no telling which member of an enumerated type to show.
-/

namespace PropertyCatalog

open Text

/-! ## Properties -/

namespace Property

/-- There is no value that an example file could show for the property. -/
def LacksExample (p : Property) : Prop :=
  p.semanticType = .group ∨ p.semanticType = .enum ∧ p.defaultText = none

instance : DecidablePred LacksExample := fun _ ↦ inferInstanceAs (Decidable (_ ∨ _))

/-- What is found where an example file shows a value that is none. -/
def exampleIssue (p : Property) : Issue :=
  ⟨.typeMismatch p.semanticType, p.path, p.mismatchDetail (trim p.placeholder)⟩

/-- The type takes what an example file shows, unless there is nothing to show. -/
theorem IsWellFormed.coercesTo_placeholder_iff {p : Property} (h : p.IsWellFormed) :
    textCoercesTo (trim p.placeholder) p.semanticType p.members = true ↔ ¬p.LacksExample := by
  rw [textCoercesTo_trim, placeholder, LacksExample]
  cases hdefault : p.defaultText with
  | some text =>
    have hcoerces := h.coercesTo_default text hdefault
    rw [Option.getD_some]
    refine ⟨fun _ ↦ ?_, fun _ ↦ hcoerces⟩
    rintro (hgroup | ⟨-, hnone⟩)
    · rw [hgroup] at hcoerces
      cases hcoerces
    · cases hnone
  | none =>
    rw [Option.getD_none]
    by_cases hgroup : p.semanticType = .group
    · rw [hgroup]
      exact ⟨fun hfalse ↦ absurd hfalse Bool.false_ne_true, fun hnot ↦ absurd (.inl rfl) hnot⟩
    · by_cases henum : p.semanticType = .enum
      · rw [henum, SemanticType.placeholder, textCoercesTo_enum_empty h.ne_empty_of_mem]
        exact ⟨fun hfalse ↦ absurd hfalse Bool.false_ne_true,
          fun hnot ↦ absurd (.inr ⟨rfl, rfl⟩) hnot⟩
      · refine ⟨fun _ ↦ ?_, fun _ ↦ textCoercesTo_placeholder henum hgroup p.members⟩
        rintro (hgroup' | ⟨henum', -⟩)
        · exact hgroup hgroup'
        · exact henum henum'

end Property

/-! ## Reports -/

namespace Catalog

variable {c : Catalog}

theorem IsWellFormed.mem_issues_validate_exampleValues_iff (h : c.IsWellFormed) {i : Issue} :
    i ∈ (c.validate c.exampleValues).issues ↔
      ∃ p ∈ c.properties, p.LacksExample ∧ p.exampleIssue = i := by
  rw [h.mem_issues_validate_iff]
  constructor
  · intro hfinds
    cases hfinds with
    | missing hp _ hunbound =>
      exact absurd (.inl ⟨_, h.get?_exampleValues_iff.mpr ⟨_, hp, rfl, rfl⟩⟩) hunbound
    | @mismatch p value hp hget hrefused =>
      -- a path stands once, so the value is what stands for that of the property itself
      obtain ⟨q, hq, hpath, rfl⟩ := h.get?_exampleValues_iff.mp hget
      obtain rfl := h.eq_of_path_eq hq hp hpath
      refine ⟨q, hq, ?_, rfl⟩
      by_contra hnot
      have hcoerces := (h.of_mem_properties hq).coercesTo_placeholder_iff.mpr hnot
      exact Bool.false_ne_true (hrefused.symm.trans hcoerces)
    | unknown hget hunknown =>
      obtain ⟨p, hp, hpath, -⟩ := h.get?_exampleValues_iff.mp hget
      exact absurd hpath (hunknown p hp)
  · rintro ⟨p, hp, hlacks, rfl⟩
    have hget : c.exampleValues.get? p.path = some (.text (trim p.placeholder)) :=
      h.get?_exampleValues_iff.mpr ⟨p, hp, rfl, rfl⟩
    have hrefused : textCoercesTo (trim p.placeholder) p.semanticType p.members = false := by
      rw [← Bool.not_eq_true, (h.of_mem_properties hp).coercesTo_placeholder_iff]
      exact not_not_intro hlacks
    have hissue : p.exampleIssue = ⟨.typeMismatch p.semanticType, p.path,
        p.mismatchDetail (BoundValue.text (trim p.placeholder)).display⟩ := rfl
    rw [hissue]
    exact .mismatch hp hget hrefused

theorem IsWellFormed.perm_issues_validate_exampleValues (h : c.IsWellFormed) :
    (c.validate c.exampleValues).issues.Perm
      ((c.properties.filter (·.LacksExample)).map (·.exampleIssue)) := by
  have hissues : (c.validate c.exampleValues).issues.Nodup :=
    List.Nodup.of_map (fun i : Issue ↦ i.path) (h.nodup_paths_validate c.exampleValues)
  have hexpected : ((c.properties.filter (·.LacksExample)).map (·.exampleIssue)).Nodup := by
    refine List.Nodup.of_map (fun i : Issue ↦ i.path) ?_
    rw [List.map_map]
    exact h.nodup_paths.sublist (List.filter_sublist.map _)
  refine (List.perm_ext_iff_of_nodup hissues hexpected).mpr fun i ↦ ?_
  rw [h.mem_issues_validate_exampleValues_iff, List.mem_map]
  simp only [List.mem_filter, decide_eq_true_eq, and_assoc]

theorem IsWellFormed.isValid_validate_exampleValues_iff (h : c.IsWellFormed) :
    (c.validate c.exampleValues).isValid = true ↔ ∀ p ∈ c.properties, ¬p.LacksExample := by
  rw [Report.isValid_iff]
  constructor
  · intro hall p hp hlacks
    exact hall _ (h.mem_issues_validate_exampleValues_iff.mpr ⟨p, hp, hlacks, rfl⟩) rfl
  · intro hnone i hi
    obtain ⟨p, hp, hlacks, -⟩ := h.mem_issues_validate_exampleValues_iff.mp hi
    exact absurd hlacks (hnone p hp)

end Catalog

namespace ScanPolicy

/-- **An example file validates.** Where every path can be a key, nothing is missing from the
example and nothing in it is unknown. The report names each property without an example once and
nothing else, so the example is valid exactly when there is no such property. -/
theorem validate_renderExample (policy : ScanPolicy) {declared : List Declaration.Group}
    {c : Catalog} (h : policy.buildCatalog declared = .ok c)
    (hplain : ∀ p ∈ c.properties, PropertiesText.IsPlainKey p.path) :
    let report := c.validate (PropertiesText.read c.renderExample)
    (∀ i ∈ report.issues, i.finding ≠ .missingRequired ∧ i.finding ≠ .unknownProperty) ∧
      report.issues.Perm ((c.properties.filter (·.LacksExample)).map (·.exampleIssue)) ∧
      (report.isValid = true ↔ ∀ p ∈ c.properties, ¬p.LacksExample) := by
  have hformed := isWellFormed_of_buildCatalog h
  rw [hformed.read_renderExample hplain]
  refine ⟨fun i hi ↦ ?_, hformed.perm_issues_validate_exampleValues,
    hformed.isValid_validate_exampleValues_iff⟩
  obtain ⟨p, -, -, rfl⟩ := hformed.mem_issues_validate_exampleValues_iff.mp hi
  exact ⟨nofun, nofun⟩

/-- A reference to a group, an enumerated type, and a number with a default between blanks. -/
theorem validate_renderExample_three_types :
    let d : Declaration.Group :=
      { root := "app",
        fields := [{ name := "db", declaredType := "group:app.db" },
          { name := "mode", declaredType := "enum", members := ["on", " off "] },
          { name := "port", declaredType := "u16", defaultText := some " 80 " }] }
    let g : PropertyGroup := ⟨"app", none,
      [⟨"app.db", .group, none, true, "app", none, [], some "app.db"⟩,
        ⟨"app.mode", .enum, none, true, "app", none, ["on", "off"], none⟩,
        ⟨"app.port", .integer, none, false, "app", some " 80 ", [], none⟩]⟩
    let c : Catalog := ⟨[g.resolveLabels],
      .ofList [("app.db", ⟨0, 0⟩), ("app.mode", ⟨0, 1⟩), ("app.port", ⟨0, 2⟩)]⟩
    let report := c.validate (PropertiesText.read c.renderExample)
    buildCatalog {} [d] = .ok c ∧ (∀ p ∈ c.properties, PropertiesText.IsPlainKey p.path) ∧
      (∀ i ∈ report.issues, i.finding ≠ .missingRequired ∧ i.finding ≠ .unknownProperty) ∧
      report.issues.Perm ((c.properties.filter (·.LacksExample)).map (·.exampleIssue)) ∧
      (report.isValid = true ↔ ∀ p ∈ c.properties, ¬p.LacksExample) := by
  intro d g c report
  have hscan : scanGroup {} 0 d = .ok g := by decide +kernel
  have hbuild : buildCatalog {} [d] = .ok c := buildCatalog_singleton hscan (by decide)
  have hplain : ∀ p ∈ c.properties, PropertiesText.IsPlainKey p.path := by decide +kernel
  exact ⟨hbuild, hplain, validate_renderExample {} hbuild hplain⟩

end ScanPolicy

end PropertyCatalog
