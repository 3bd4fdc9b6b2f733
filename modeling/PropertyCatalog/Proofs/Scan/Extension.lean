import PropertyCatalog.Proofs.Scan.FirstFault
import PropertyCatalog.Proofs.TypeRegistry.History

/-!
# Larger registries

A scan that succeeds has resolved every declared type, and asks the registry for nothing else. So
it yields the same under every registry that resolves these names alike, and registering new names
leads to such a registry: a name is found under itself only, and one that is found was not new.

New is a name under which nothing is registered. A name by which nothing is found is as good, be
there something under it or not: no declared type leads to it.
-/

namespace PropertyCatalog

open Text Declaration

/-! ## Registries that resolve more -/

namespace TypeRegistry

/-- What the first registry resolves the second resolves in the same way. -/
def Extends (r larger : TypeRegistry) : Prop :=
  ∀ name meaning, r.resolve name = some meaning → larger.resolve name = some meaning

/-- The registry does not map the name: nothing is registered under it, or nothing is found
by it. -/
def Lacks (r : TypeRegistry) (name : String) : Prop :=
  r.meanings.get? name = none ∨ r.resolve name.toList = none

variable {r s : TypeRegistry} {name : String} {meaning : TypeMeaning}

/-- Nothing that the registry resolves is looked up under a name that it lacks. -/
theorem Lacks.ne_trim {new : String} (h : r.Lacks new)
    (plain : ∀ root : String, trim name ≠ "group:" ++ root)
    (found : r.resolve name.toList = some meaning) : trim name ≠ new := by
  rintro rfl
  have hself : r.resolve (trim name).toList = r.meanings.get? (trim name) := by
    rw [resolve_of_plain (by rwa [trim_trim]), trim_trim]
  rw [resolve_of_plain plain] at found
  rcases h with hget | hresolve
  · rw [found] at hget
    cases hget
  · rw [hself, found] at hresolve
    cases hresolve

/-- One registration of a name that the first registry lacks keeps the second larger. -/
theorem Extends.apply (h : r.Extends s) {x : Registration} (hx : r.Lacks x.name) :
    r.Extends (Registration.apply s x) := by
  intro cs meaning hfound
  obtain ⟨name, rfl⟩ : ∃ name : String, name.toList = cs := ⟨_, String.toList_ofList⟩
  by_cases hopens : ∃ root : String, trim name = "group:" ++ root
  · -- no registry has a say in what a reference means
    obtain ⟨root, hroot⟩ := hopens
    rw [resolve_of_reference hroot] at hfound ⊢
    exact hfound
  · rw [not_exists] at hopens
    have hne : trim name ≠ x.name := hx.ne_trim hopens hfound
    rw [resolve_of_plain hopens, Registration.meanings_apply, TextMap.get?_insert, if_neg hne,
      ← resolve_of_plain hopens]
    exact h _ _ hfound

theorem Extends.after (h : r.Extends s) {history : List Registration}
    (hnew : ∀ x ∈ history, r.Lacks x.name) : r.Extends (s.after history) := by
  induction history generalizing s with
  | nil => exact h
  | cons x history ih =>
    obtain ⟨hx, hrest⟩ := List.forall_mem_cons.mp hnew
    exact ih (h.apply hx) hrest

theorem extends_after {history : List Registration} (hnew : ∀ x ∈ history, r.Lacks x.name) :
    r.Extends (r.after history) :=
  Extends.after (fun _ _ hfound ↦ hfound) hnew

end TypeRegistry

/-! ## Scans under larger registries -/

theorem Declaration.Field.IsWellFormed.of_extends {field : Field} {registry larger : TypeRegistry}
    {meaning : TypeMeaning} (h : field.IsWellFormed registry meaning)
    (hlarger : registry.Extends larger) : field.IsWellFormed larger meaning :=
  ⟨h.name, Field.means_iff.mpr (hlarger _ _ (Field.means_iff.mp h.type)), h.members, h.line,
    h.value⟩

namespace ScanPolicy

variable {policy : ScanPolicy} {larger : TypeRegistry}

theorem scanField_of_extends (h : policy.registry.Extends larger) {root : String} {field : Field}
    {p : Property} (hscan : policy.scanField root field = .ok p) :
    scanField { policy with registry := larger } root field = .ok p := by
  obtain ⟨meaning, hwell, rfl⟩ := scanField_eq_ok_iff_isWellFormed.mp hscan
  exact scanField_eq_ok_iff_isWellFormed.mpr ⟨meaning, hwell.of_extends h, rfl⟩

theorem scanGroup_of_extends (h : policy.registry.Extends larger) {index : Nat} {declared : Group}
    {g : PropertyGroup} (hscan : policy.scanGroup index declared = .ok g) :
    scanGroup { policy with registry := larger } index declared = .ok g := by
  obtain ⟨hroot, hfields, hg, hdescription, hproperties⟩ := scanGroup_eq_ok_iff.mp hscan
  exact scanGroup_eq_ok_iff.mpr ⟨hroot, hfields, hg, hdescription,
    hproperties.imp fun _ _ hfield ↦ scanField_of_extends h hfield⟩

theorem scan_of_extends (h : policy.registry.Extends larger) {declared : List Group}
    {groups : List PropertyGroup} (hscan : policy.scan declared = .ok groups) :
    scan { policy with registry := larger } declared = .ok groups :=
  scan_eq_ok_iff.mpr ((scan_eq_ok_iff.mp hscan).imp fun _ _ hgroup ↦ scanGroup_of_extends h hgroup)

/-- **New names are conservative.** Where a scan succeeds, a name that the registry does not map may
be made an alias of any semantic type, or refer to the group at any root: the scan yields the
same. -/
theorem scan_of_lacks {declared : List Group} {groups : List PropertyGroup}
    (hscan : policy.scan declared = .ok groups) {name : String}
    (hname : policy.registry.Lacks name) :
    (∀ type, scan { policy with registry := policy.registry.addAlias name type } declared
        = .ok groups) ∧
      ∀ root, scan { policy with registry := policy.registry.addGroup name root } declared
        = .ok groups := by
  have hregistered : ∀ x : Registration, x.name = name →
      scan { policy with registry := policy.registry.after [x] } declared = .ok groups := by
    intro x hx
    refine scan_of_extends (TypeRegistry.extends_after fun y hy ↦ ?_) hscan
    rw [List.mem_singleton.mp hy, hx]
    exact hname
  exact ⟨fun type ↦ hregistered (.semantic name type) rfl,
    fun root ↦ hregistered (.group name root) rfl⟩

/-- A name that begins like a reference, and a declaration that uses it: what is registered under it
is not looked at. -/
theorem scan_of_lacks_reference :
    let d : Group :=
      { root := "app",
        fields := [{ name := "db", declaredType := " Option<group: app.db> " },
          { name := "port", declaredType := "u16" }] }
    let g : PropertyGroup :=
      ⟨"app", none, [⟨"app.db", .group, none, false, "app", none, [], some "app.db"⟩,
        ⟨"app.port", .integer, none, true, "app", none, [], none⟩]⟩
    scan {} [d] = .ok [g] ∧ TypeRegistry.standard.Lacks "group: app.db" ∧
      scan { registry := TypeRegistry.standard.addAlias "group: app.db" .integer } [d]
        = .ok [g] ∧
      scan { registry := TypeRegistry.standard.addGroup "group: app.db" "other" } [d]
        = .ok [g] := by
  intro d g
  have hscan : scan {} [d] = .ok [g] := by decide +kernel
  have hlacks : TypeRegistry.standard.Lacks "group: app.db" := .inl (by decide +kernel)
  obtain ⟨halias, hgroup⟩ := scan_of_lacks hscan hlacks
  exact ⟨hscan, hlacks, halias .integer, hgroup "other"⟩

end ScanPolicy

end PropertyCatalog
