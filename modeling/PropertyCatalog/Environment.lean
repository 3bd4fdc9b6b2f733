import PropertyCatalog.Catalog

/-!
# Environment variables

A property can be bound by a variable whose name is the path in ASCII capitals, with `_` in place of
`.` and `-`, behind an optional opening of the caller's own. Different paths may thus share a
variable; each of them is then bound by it.
-/

namespace PropertyCatalog

/-- What is set under the names that may be looked for. Where that is no text, there is none here. -/
abbrev Environment := TextMap (Option String)

namespace Environment

open Text

/-! ## Names of variables -/

/-- How a character of a path stands in the name of a variable. -/
def variableChar (c : Char) : Char := if c = '.' ∨ c = '-' then '_' else c.toUpper

/-- What the caller's opening contributes: nothing if it is blank, else its capitals and one
underscore in place of those at its end. -/
def opening (lead : Option String) : String :=
  match lead.map trim with
  | none | some "" => ""
  | some s => asciiUpper (String.ofList (s.toList.reverse.dropWhile (· = '_')).reverse) ++ "_"

/-- The name of the variable that binds a path. -/
def variableName (path : String) (lead : Option String) : String :=
  opening lead ++ path.map variableChar

/-! ## Looking for variables -/

/-- The two sides of every `=` behind the characters in front. -/
def sides (front : List Char) : List Char → List (String × String)
  | [] => []
  | c :: cs =>
    if c = '=' then (String.ofList front, String.ofList cs) :: sides (front ++ [c]) cs
    else sides (front ++ [c]) cs

/-- What may be found through one variable. Variables stand as `NAME=TEXT`, and whoever looks for a name
compares what stands in front of an `=`; so a text with an `=` in it is also found in part, under a
longer name. -/
def findings (name : String) : Option String → List (String × Option String)
  | none => [(name, none)]
  | some text =>
    (sides [] (name.toList ++ '=' :: text.toList)).map fun (front, behind) ↦ (front, some behind)

/-- The environment of some variables, of which a later one with the same name wins. -/
def ofVariables (given : List (String × Option String)) : Environment :=
  TextMap.ofList ((TextMap.ofList given).entries.flatMap fun (name, text) ↦ findings name text)

/-- The text of a variable, if it is set to a text. -/
def text? (env : Environment) (variableName : String) : Option String :=
  (env.get? variableName).join

/-! ## Bindings -/

/-- A path that the environment binds. -/
structure Binding where
  /-- The path. -/
  path : String
  /-- The variable that binds it. -/
  variableName : String
  /-- The text of the variable. -/
  value : String

/-- The paths of the catalog that the environment binds, in catalog order. -/
def bindings (env : Environment) (c : Catalog) (lead : Option String) : List Binding :=
  c.properties.filterMap fun p ↦
    let key := variableName p.path lead
    (env.text? key).map (⟨p.path, key, ·⟩)

def valuesOf (bindings : List Binding) : BoundValues :=
  TextMap.ofList (bindings.map fun b ↦ (b.path, .text b.value))

/-- The values that the environment binds for a catalog, as text. -/
def values (env : Environment) (c : Catalog) (lead : Option String) : BoundValues :=
  valuesOf (env.bindings c lead)

/-- The paths of the catalog are bound to the texts of their variables, and no other path is. -/
theorem get?_values_eq_some_iff {env : Environment} {c : Catalog} {lead : Option String}
    {path : String} {value : BoundValue} :
    (env.values c lead).get? path = some value ↔
      (∃ p ∈ c.properties, p.path = path) ∧
        ∃ s, env.text? (variableName path lead) = some s ∧ value = .text s := by
  -- properties with one path share the variable, so it does not matter which of them comes last
  have hmem : ∀ v, (path, v) ∈ (env.bindings c lead).map (fun b ↦ (b.path, BoundValue.text b.value))
      ↔ (∃ p ∈ c.properties, p.path = path) ∧
        ∃ s, env.text? (variableName path lead) = some s ∧ v = .text s := by
    intro v
    simp only [bindings, List.mem_map, List.mem_filterMap, Option.map_eq_some_iff, Prod.mk.injEq]
    constructor
    · rintro ⟨_, ⟨p, hp, s, hs, rfl⟩, rfl, rfl⟩
      exact ⟨⟨p, hp, rfl⟩, s, hs, rfl⟩
    · rintro ⟨⟨p, hp, rfl⟩, s, hs, rfl⟩
      exact ⟨_, ⟨p, hp, s, hs, rfl⟩, rfl, rfl⟩
  constructor
  · intro hget
    exact (hmem value).mp (TextMap.mem_of_get?_ofList hget)
  · intro h
    obtain ⟨w, hget⟩ := TextMap.exists_get?_ofList_of_mem ((hmem value).mpr h)
    obtain ⟨-, s, hs, rfl⟩ := h
    obtain ⟨-, s', hs', rfl⟩ := (hmem w).mp (TextMap.mem_of_get?_ofList hget)
    rw [hs, Option.some_inj] at hs'
    rw [hs']
    exact hget

end Environment

end PropertyCatalog
