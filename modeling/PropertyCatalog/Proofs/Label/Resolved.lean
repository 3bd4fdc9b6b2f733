import PropertyCatalog.Proofs.Catalog.Correspondence
import PropertyCatalog.Proofs.Label.Derived
import PropertyCatalog.Render.Markdown
import PropertyCatalog.Render.Table

/-!
# Resolved labels

Once labels are resolved, they stay. A resolved label has no blanks around it, so a second pass
finds nothing to remove; and it is empty only where the derived label is empty too, so deriving it
again changes nothing.

Resolving goes through the building of a catalog from either side, because no key of a group holds a
label: the groups are sorted alike, and the walk through them meets the same paths. What is built of
resolved groups therefore shows to everyone the labels that it keeps.
-/

namespace PropertyCatalog

/-! ## Labels -/

namespace Label

theorem derived_eq_empty_of_resolve {declared : Option String} {path : String}
    (h : resolve declared path = "") : derived path = "" := by
  rw [resolve] at h
  split at h
  · split at h
    · exact h
    · contradiction
  · exact h

theorem resolve_resolve (declared : Option String) (path : String) :
    resolve (some (resolve declared path)) path = resolve declared path := by
  have hstep : ∀ label : String, resolve (some label) path
      = if Text.trim label = "" then derived path else Text.trim label := fun _ ↦ rfl
  rw [hstep, trim_resolve]
  by_cases hempty : resolve declared path = ""
  · rw [if_pos hempty, hempty]
    exact derived_eq_empty_of_resolve hempty
  · rw [if_neg hempty]

end Label

/-! ## Properties and groups -/

/-- The second property is the first with a label. -/
def Property.Labelled (p q : Property) : Prop := ∃ label, q = { p with label := some label }

/-- The second group is the first with a label at every property. -/
structure PropertyGroup.Labelled (g h : PropertyGroup) : Prop where
  /-- The roots are equal. -/
  root_eq : h.root = g.root
  /-- The descriptions are equal. -/
  description_eq : h.description = g.description
  /-- Each property has a label and is otherwise as before. -/
  properties : List.Forall₂ Property.Labelled g.properties h.properties

namespace Property

theorem labelled_resolveLabel (p : Property) : p.Labelled p.resolveLabel := ⟨_, rfl⟩

theorem resolveLabel_resolveLabel (p : Property) : p.resolveLabel.resolveLabel = p.resolveLabel :=
  congrArg (fun label ↦ { p with label := some label }) (Label.resolve_resolve p.label p.path)

end Property

namespace PropertyGroup

theorem labelled_resolveLabels (g : PropertyGroup) : g.Labelled g.resolveLabels := by
  refine ⟨rfl, rfl, ?_⟩
  rw [resolveLabels, List.forall₂_map_right_iff, List.forall₂_same]
  exact fun p _ ↦ p.labelled_resolveLabel

theorem resolveLabels_resolveLabels (g : PropertyGroup) :
    g.resolveLabels.resolveLabels = g.resolveLabels := by
  have hproperties : (g.properties.map (·.resolveLabel)).map (·.resolveLabel)
      = g.properties.map (·.resolveLabel) := by
    rw [List.map_map]
    exact List.map_congr_left fun p _ ↦ p.resolveLabel_resolveLabel
  exact congrArg (fun properties ↦ { g with properties }) hproperties

end PropertyGroup

theorem resolveLabels_resolveLabels (groups : List PropertyGroup) :
    resolveLabels (resolveLabels groups) = resolveLabels groups := by
  rw [resolveLabels, resolveLabels, List.map_map]
  exact List.map_congr_left fun g _ ↦ g.resolveLabels_resolveLabels

/-! ## Catalogs -/

namespace Catalog

def resolveLabels (c : Catalog) : Catalog :=
  { c with groups := PropertyCatalog.resolveLabels c.groups }

theorem Corresponds.eq_resolveLabels {c d : Catalog}
    (h : c.Corresponds (fun g g' ↦ g.resolveLabels = g') d) : d = c.resolveLabels := by
  have hgroups : List.Forall₂ Eq (c.groups.map (·.resolveLabels)) d.groups :=
    List.forall₂_map_left_iff.mpr h.groups
  rw [List.forall₂_eq_eq_eq] at hgroups
  rw [resolveLabels, PropertyCatalog.resolveLabels, hgroups, h.index_eq]

/-- Whether labels are resolved before or after a catalog is built makes no difference. -/
theorem build_resolveLabels (groups : List PropertyGroup) :
    build (PropertyCatalog.resolveLabels groups) = (build groups).map resolveLabels := by
  have hgroups : List.Forall₂ (fun g g' ↦ g.resolveLabels = g') groups
      (PropertyCatalog.resolveLabels groups) := by
    rw [PropertyCatalog.resolveLabels, List.forall₂_map_right_iff, List.forall₂_same]
    exact fun _ _ ↦ rfl
  have hkey : ∀ g g' : PropertyGroup, g.resolveLabels = g' → g.key = g'.key := by
    rintro g _ rfl
    exact g.key_resolveLabels.symm
  exact ((related_build hgroups hkey).imp fun _ _ _ _ h ↦ h.eq_resolveLabels).eq_map

/-- Whoever reads the catalog is shown the labels that its properties have. -/
structure ShowsLabels (c : Catalog) : Prop where
  /-- Each property has a label, and this is the text that stands for it. -/
  label_eq : ∀ p ∈ c.properties, p.label = some p.labelOrDerived
  /-- The rows of the table have these labels, in order. -/
  table : c.table.map (fun r ↦ some r.label) = c.properties.map (·.label)
  /-- So have the rows of the tables in Markdown, each as its second cell. -/
  cells : ∀ p ∈ c.properties, ∃ label, p.label = some label ∧
    p.cells[1]? = some (Markdown.cell label)

theorem exists_eq_resolveLabel_of_build {groups : List PropertyGroup} {c : Catalog}
    (h : build (PropertyCatalog.resolveLabels groups) = .ok c) {p : Property}
    (hp : p ∈ c.properties) : ∃ q : Property, p = q.resolveLabel := by
  rw [build_resolveLabels, Outcome.map_eq_ok_iff] at h
  obtain ⟨b, -, rfl⟩ := h
  obtain ⟨g, hg, hpg⟩ := List.mem_flatMap.mp hp
  obtain ⟨f, -, rfl⟩ := List.mem_map.mp hg
  obtain ⟨q, -, rfl⟩ := List.mem_map.mp hpg
  exact ⟨q, rfl⟩

theorem showsLabels_of_build {groups : List PropertyGroup} {c : Catalog}
    (h : build (PropertyCatalog.resolveLabels groups) = .ok c) : c.ShowsLabels := by
  have hlabel : ∀ p ∈ c.properties, p.label = some p.labelOrDerived := by
    intro p hp
    obtain ⟨q, rfl⟩ := exists_eq_resolveLabel_of_build h hp
    rfl
  constructor
  case label_eq => exact hlabel
  case table =>
    rw [table, List.map_map]
    exact List.map_congr_left fun p hp ↦ (hlabel p hp).symm
  case cells => exact fun p hp ↦ ⟨p.labelOrDerived, hlabel p hp, rfl⟩

/-- **Labels are resolved once.** Resolving them again changes nothing, and resolving them at all
changes nothing but labels, of which none is missing afterwards. Groups with their labels resolved
fail to make a catalog as the groups themselves do, with one error, or make the same catalog with
its labels resolved. So a catalog of such groups shows the labels that it keeps. -/
theorem resolveLabels_settled (groups : List PropertyGroup) :
    let resolved := PropertyCatalog.resolveLabels groups
    PropertyCatalog.resolveLabels resolved = resolved ∧
      List.Forall₂ PropertyGroup.Labelled groups resolved ∧
      build resolved = (build groups).map resolveLabels ∧
      ∀ c, build resolved = .ok c → c.ShowsLabels := by
  refine ⟨resolveLabels_resolveLabels groups, ?_, build_resolveLabels groups,
    fun _ ↦ showsLabels_of_build⟩
  rw [PropertyCatalog.resolveLabels, List.forall₂_map_right_iff, List.forall₂_same]
  exact fun g _ ↦ g.labelled_resolveLabels

/-- A label between blanks, one that is derived, and a blank one at a path from which no word can be
derived: it stays empty. -/
theorem resolveLabels_settled_three_labels :
    let g : PropertyGroup := ⟨"a", none,
      [⟨"a.url", .string, some " Own ", true, "a", none, [], none⟩]⟩
    let h : PropertyGroup := ⟨"b", none,
      [⟨"b.maxSize", .integer, none, true, "b", none, [], none⟩,
        ⟨"b.-", .string, some " ", false, "b", none, [], none⟩]⟩
    let resolved := PropertyCatalog.resolveLabels [g, h]
    let c : Catalog :=
      ⟨resolved, .ofList [("a.url", ⟨0, 0⟩), ("b.maxSize", ⟨1, 0⟩), ("b.-", ⟨1, 1⟩)]⟩
    PropertyCatalog.resolveLabels resolved = resolved ∧ build resolved = .ok c ∧
      build resolved = (build [g, h]).map resolveLabels ∧ c.ShowsLabels ∧
      c.table.map (·.label) = ["Own", "Max size", ""] := by
  intro g h resolved c
  have hsorted : resolved.mergeSort PropertyGroup.precedes = resolved :=
    List.mergeSort_of_pairwise (by decide +kernel)
  have hbuild : build resolved = .ok c :=
    build_eq_ok_iff.mpr ⟨hsorted.symm, by decide +kernel, rfl⟩
  obtain ⟨hstable, -, hcommutes, hshows⟩ := resolveLabels_settled [g, h]
  exact ⟨hstable, hbuild, hcommutes, hshows c hbuild, by decide +kernel⟩

end Catalog

end PropertyCatalog
