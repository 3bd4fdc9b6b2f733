import PropertyCatalog.Proofs.TextMap.Writes
import PropertyCatalog.TypeRegistry

/-!
# Histories of registrations

A registry is what came of registrations, one after the other, behind the names that were known from
the beginning. What a name stands for is read here off the history itself (`StandsFor`): the last
registration of the name decides, whatever kind it is of.

Names are kept as they are registered, but looked up without the blanks around them. So a
registration with blanks around its name is never found, and neither is one of a name that begins
like a reference: references say themselves which group they mean.
-/

namespace PropertyCatalog

open Text

/-! ## Registrations -/

/-- One name is given its meaning. -/
inductive Registration where
  /-- The name stands for a semantic type. -/
  | semantic (name : String) (type : SemanticType)
  /-- The name refers to the group at a root. -/
  | group (name root : String)

namespace Registration

def name : Registration → String
  | semantic name _ | group name _ => name

def meaning : Registration → TypeMeaning
  | semantic _ type => .semantic type
  | group _ root => .group root

/-- The registry after the registration. -/
def apply (r : TypeRegistry) : Registration → TypeRegistry
  | semantic name type => r.addAlias name type
  | group name root => r.addGroup name root

/-- The registration gives the meaning to the name. -/
def Gives (name : String) (x : Registration) (meaning : TypeMeaning) : Prop :=
  x.name = name ∧ x.meaning = meaning

theorem meanings_apply (r : TypeRegistry) (x : Registration) :
    (apply r x).meanings = r.meanings.insert x.name x.meaning := by
  cases x <;> rfl

end Registration

namespace TypeRegistry

variable {r : TypeRegistry} {history : List Registration} {name : String} {meaning : TypeMeaning}

/-- The registry after some registrations. -/
def after (r : TypeRegistry) (history : List Registration) : TypeRegistry :=
  history.foldl Registration.apply r

/-- Under a name stands what it was given last, and what stood there before if it was given
nothing. -/
theorem get?_after_eq_some_iff :
    (r.after history).meanings.get? name = some meaning ↔
      LastBinds (Registration.Gives name) history meaning ∨
        (∀ x ∈ history, x.name ≠ name) ∧ r.meanings.get? name = some meaning := by
  have hmeanings : (r.after history).meanings
      = history.foldl (fun m x ↦ m.insert x.name x.meaning) r.meanings :=
    (List.foldl_hom TypeRegistry.meanings fun r x ↦ (Registration.meanings_apply r x).symm).symm
  have hstep : ∀ (m : TextMap TypeMeaning) (x : Registration) (meaning : TypeMeaning),
      (m.insert x.name x.meaning).get? name = some meaning ↔
        x.Gives name meaning ∨ (∀ meaning', ¬x.Gives name meaning') ∧
          m.get? name = some meaning := by
    intro m x meaning
    rw [TextMap.get?_insert]
    by_cases hname : name = x.name
    · simp [Registration.Gives, hname]
    · simp [Registration.Gives, hname, Ne.symm hname]
  rw [hmeanings, TextMap.get?_foldl_eq_some_iff hstep]
  simp [Registration.Gives]

/-! ## Look-ups -/

theorem after?_referenceOpening_eq_some_iff {root : String} :
    after? referenceOpening (trimmed name.toList) = some root.toList ↔
      trim name = "group:" ++ root := by
  rw [after?_eq_some_iff, ← String.toList_inj, toList_trim, String.toList_append]
  -- the equation of the definition would evaluate the literal
  delta referenceOpening
  rfl

theorem resolve_of_reference {root : String} (opens : trim name = "group:" ++ root) :
    r.resolve name.toList =
      if PropertyPath.isDotted (trim root).toList then some (.group (trim root)) else none := by
  rw [resolve]
  simp only [after?_referenceOpening_eq_some_iff.mpr opens, toList_trim]
  rfl

/-- A name that is no reference means what stands under it. -/
theorem resolve_of_plain (plain : ∀ root : String, trim name ≠ "group:" ++ root) :
    r.resolve name.toList = r.meanings.get? (trim name) := by
  have hnone : after? referenceOpening (trimmed name.toList) = none := by
    rw [Option.eq_none_iff_forall_ne_some]
    intro rest hrest
    rw [← String.toList_ofList (l := rest), after?_referenceOpening_eq_some_iff] at hrest
    exact plain _ hrest
  rw [resolve]
  simp only [hnone]
  rfl

/-! ## Names that are known from the beginning -/

/-- The registry gives just these names their types. -/
def Knows (r : TypeRegistry) (known : List (SemanticType × List String)) : Prop :=
  ∀ name meaning, r.meanings.get? name = some meaning ↔
    ∃ type names, (type, names) ∈ known ∧ name ∈ names ∧ meaning = .semantic type

theorem knows_empty : empty.Knows [] := by
  intro name meaning
  simp [empty]

/-- The names that every host may use, each with its meaning. -/
def builtinMeanings : List (String × TypeMeaning) :=
  builtins.flatMap fun (type, names) ↦ names.map (·, .semantic type)

theorem meanings_standard : standard.meanings = .ofList builtinMeanings := by
  rfl

theorem nodup_builtinMeanings : (builtinMeanings.map (·.1)).Nodup := by decide +kernel

theorem knows_standard : standard.Knows builtins := by
  intro name meaning
  rw [meanings_standard, TextMap.get?_ofList_eq_some_iff nodup_builtinMeanings, builtinMeanings]
  simp only [List.mem_flatMap, List.mem_map, Prod.exists, Prod.mk.injEq]
  constructor
  · rintro ⟨type, names, hknown, _, hname, rfl, rfl⟩
    exact ⟨type, names, hknown, hname, rfl⟩
  · rintro ⟨type, names, hknown, hname, rfl⟩
    exact ⟨type, names, hknown, name, hname, rfl, rfl⟩

/-! ## What a name stands for -/

/-- What a name stands for after a history of registrations, where some names are known from the
beginning. -/
inductive StandsFor (known : List (SemanticType × List String)) (history : List Registration)
    (name : String) : TypeMeaning → Prop
  /-- A reference stands for the group at its path, whatever is registered. -/
  | reference {root : String} (opens : trim name = "group:" ++ root)
      (path : PropertyPath.WellShaped (trim root).toList) :
      StandsFor known history name (.group (trim root))
  /-- Any other name stands for what it was given last. -/
  | registered {meaning : TypeMeaning} (plain : ∀ root : String, trim name ≠ "group:" ++ root)
      (last : LastBinds (Registration.Gives (trim name)) history meaning) :
      StandsFor known history name meaning
  /-- A name that was given nothing stands for what is known of it. -/
  | known {type : SemanticType} {names : List String}
      (plain : ∀ root : String, trim name ≠ "group:" ++ root)
      (unregistered : ∀ x ∈ history, x.name ≠ trim name) (listed : (type, names) ∈ known)
      (mem : trim name ∈ names) : StandsFor known history name (.semantic type)

/-- After a history of registrations a name is resolved to what it stands for, and to nothing
else. -/
theorem resolve_after_eq_some_iff {known : List (SemanticType × List String)} (h : r.Knows known) :
    (r.after history).resolve name.toList = some meaning ↔
      StandsFor known history name meaning := by
  by_cases hopens : ∃ root : String, trim name = "group:" ++ root
  · obtain ⟨root, hroot⟩ := hopens
    rw [resolve_of_reference hroot, Option.ite_none_right_eq_some, PropertyPath.isDotted_iff,
      Option.some_inj]
    constructor
    · rintro ⟨hpath, rfl⟩
      exact .reference hroot hpath
    · rintro (⟨opens, path⟩ | ⟨plain, -⟩ | ⟨plain, -, -, -⟩)
      · -- a name continues the opening in one way
        have hunique := String.append_right_inj _ |>.mp (hroot.symm.trans opens)
        exact ⟨hunique ▸ path, hunique ▸ rfl⟩
      · exact absurd hroot (plain root)
      · exact absurd hroot (plain root)
  · rw [not_exists] at hopens
    rw [resolve_of_plain hopens, get?_after_eq_some_iff, h]
    constructor
    · rintro (hlast | ⟨hunregistered, type, names, hlisted, hmem, rfl⟩)
      · exact .registered hopens hlast
      · exact .known hopens hunregistered hlisted hmem
    · rintro (⟨opens, -⟩ | ⟨-, last⟩ | ⟨-, unregistered, listed, mem⟩)
      · exact absurd opens (hopens _)
      · exact .inl last
      · exact .inr ⟨unregistered, _, _, listed, mem, rfl⟩

/-- What is registered with blanks around its name is not found, with them or without. -/
example :
    let r := standard.after [.semantic " port " .integer]
    r.resolve " port ".toList = none ∧ r.resolve "port".toList = none := by
  decide +kernel

end TypeRegistry

end PropertyCatalog
