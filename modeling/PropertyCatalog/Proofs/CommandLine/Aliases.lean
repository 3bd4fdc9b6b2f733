import PropertyCatalog.CommandLine.Layers
import PropertyCatalog.Proofs.Outcome
import PropertyCatalog.Proofs.TypeRegistry.History

/-!
# Aliases of types

The command line adds names to the types that every host may use. Each entry `NAME=TYPE` is cut at
its first `=` and registers its name without the blanks around it, in the order of the entries; one
entry that makes no alias is enough for the command to fail. So the registry of a command is that of
a history, and the history says what each name stands for.
-/

namespace PropertyCatalog.CommandLine

open Text

/-! ## Entries -/

/-- An entry makes what stands in front of its first `=` an alias of the type that is named behind
it; blanks around either do not count. -/
inductive IsAlias (entry : String) : String × SemanticType → Prop
  /-- The entry is cut at its first `=`. -/
  | cut {name typeName : List Char} {type : SemanticType}
      (split : entry.toList = name ++ '=' :: typeName) (first : '=' ∉ name)
      (names : SemanticType.ofName? (String.ofList (trimmed typeName)) = some type) :
      IsAlias entry (String.ofList (trimmed name), type)

theorem readAlias_eq_ok_iff {entry : String} {a : String × SemanticType} :
    readAlias entry = .ok a ↔ IsAlias entry a := by
  rw [readAlias]
  constructor
  · intro h
    split at h
    next => cases h
    next name typeName hcut =>
      obtain ⟨hsplit, hfirst⟩ := cut?_char_eq_some_iff.mp hcut
      dsimp only at h
      split at h
      next => cases h
      next type hnames =>
        cases h
        exact .cut hsplit hfirst hnames
  · rintro ⟨hsplit, hfirst, hnames⟩
    rw [cut?_char_eq_some_iff.mpr ⟨hsplit, hfirst⟩]
    simp only [hnames]

/-- An entry makes no alias: it has no `=`, or it names no semantic type behind the first one. -/
inductive IsNoAlias (entry : String) : Prop
  /-- There is nothing to cut it at. -/
  | form (fault : '=' ∉ entry.toList)
  /-- No type has the name, without the blanks around it. -/
  | type {name typeName : List Char} (split : entry.toList = name ++ '=' :: typeName)
      (first : '=' ∉ name)
      (fault : ∀ type : SemanticType, type.name ≠ String.ofList (trimmed typeName))

theorem isNoAlias_iff {entry : String} : IsNoAlias entry ↔ ∀ a, ¬IsAlias entry a := by
  constructor
  · rintro (fault | ⟨split, first, fault⟩) _ ⟨split', first', names⟩
    · rw [split'] at fault
      exact fault (List.mem_append_right _ List.mem_cons_self)
    · -- there is one first place to cut at
      have hcut := cut?_char_eq_some_iff.mpr ⟨split, first⟩
      rw [cut?_char_eq_some_iff.mpr ⟨split', first'⟩] at hcut
      cases hcut
      exact fault _ (SemanticType.name_of_ofName? names)
  · intro h
    by_cases hmem : '=' ∈ entry.toList
    case neg => exact .form hmem
    obtain ⟨⟨name, typeName⟩, hcut⟩ := exists_cut?_char_iff.mpr hmem
    obtain ⟨split, first⟩ := cut?_char_eq_some_iff.mp hcut
    refine .type split first fun type htype ↦ ?_
    have hnames : SemanticType.ofName? (String.ofList (trimmed typeName)) = some type := by
      rw [← htype, SemanticType.ofName?_name]
    exact h _ (.cut split first hnames)

namespace CatalogOptions

variable {o : CatalogOptions} {policy : ScanPolicy}

/-! ## Policies -/

/-- How declarations are scanned with some aliases. -/
def policyWith (o : CatalogOptions) (aliases : List (String × SemanticType)) : ScanPolicy where
  rule := if o.explicitRequired then .explicitOnly else .inferred
  registry := aliases.foldl (fun r (name, type) ↦ r.addAlias name type) .standard

theorem registry_policyWith (aliases : List (String × SemanticType)) :
    (o.policyWith aliases).registry
      = TypeRegistry.standard.after (aliases.map fun (name, type) ↦ .semantic name type) := by
  rw [TypeRegistry.after, List.foldl_map]
  rfl

theorem policy_eq_ok_iff :
    o.policy = .ok policy ↔
      ∃ aliases, List.Forall₂ IsAlias o.aliases aliases ∧ policy = o.policyWith aliases := by
  simp only [CatalogOptions.policy, registry, Outcome.map_eq_ok_iff, Outcome.mapM_eq_ok_iff,
    readAlias_eq_ok_iff]
  constructor
  · rintro ⟨_, ⟨aliases, hreads, rfl⟩, rfl⟩
    exact ⟨aliases, hreads, rfl⟩
  · rintro ⟨aliases, hreads, rfl⟩
    exact ⟨_, ⟨aliases, hreads, rfl⟩, rfl⟩

/-- There is no policy exactly if some entry makes no alias. -/
theorem exists_policy_eq_error_iff :
    (∃ f, o.policy = .error f) ↔ ∃ entry ∈ o.aliases, IsNoAlias entry := by
  have hreads : (∃ policy, o.policy = .ok policy) ↔
      ∃ aliases, o.aliases.mapM readAlias = .ok aliases := by
    simp [CatalogOptions.policy, registry, Outcome.map_eq_ok_iff]
  rw [Outcome.exists_eq_error_iff, hreads, Outcome.exists_mapM_ok_iff]
  simp only [readAlias_eq_ok_iff, isNoAlias_iff, not_forall, not_exists, exists_prop]

end CatalogOptions

/-- **What registered names stand for.** Whatever was registered in the empty registry or in the one
of the names that every host may use, a name is resolved to what it stands for after that history.
The aliases of a command make such a history: the command has no policy exactly if some entry makes
no alias, and else each of its entries is registered, in order. -/
theorem registrations_exact (history : List Registration) (o : CatalogOptions) :
    (∀ name meaning, (TypeRegistry.empty.after history).resolve name.toList = some meaning ↔
        TypeRegistry.StandsFor [] history name meaning) ∧
      (∀ name meaning, (TypeRegistry.standard.after history).resolve name.toList = some meaning ↔
        TypeRegistry.StandsFor TypeRegistry.builtins history name meaning) ∧
      ((∃ f, o.policy = .error f) ↔ ∃ entry ∈ o.aliases, IsNoAlias entry) ∧
      ∀ policy, o.policy = .ok policy ↔
        ∃ aliases, List.Forall₂ IsAlias o.aliases aliases ∧
          policy.rule = (if o.explicitRequired then .explicitOnly else .inferred) ∧
          policy.registry
            = TypeRegistry.standard.after (aliases.map fun (name, type) ↦ .semantic name type) := by
  refine ⟨fun name meaning ↦ TypeRegistry.resolve_after_eq_some_iff TypeRegistry.knows_empty,
    fun name meaning ↦ TypeRegistry.resolve_after_eq_some_iff TypeRegistry.knows_standard,
    CatalogOptions.exists_policy_eq_error_iff, fun policy ↦ ?_⟩
  simp only [CatalogOptions.policy_eq_ok_iff, ← CatalogOptions.registry_policyWith (o := o)]
  constructor
  · rintro ⟨aliases, hreads, rfl⟩
    exact ⟨aliases, hreads, rfl, rfl⟩
  · rintro ⟨aliases, hreads, hrule, hregistry⟩
    obtain ⟨rule, registry⟩ := policy
    obtain rfl := hrule
    obtain rfl := hregistry
    exact ⟨aliases, hreads, rfl⟩

end PropertyCatalog.CommandLine
