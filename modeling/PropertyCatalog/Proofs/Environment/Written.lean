import Mathlib.Data.List.Nodup
import PropertyCatalog.Proofs.Environment.Name
import PropertyCatalog.Proofs.Validation.Report

/-!
# Values written to the environment

The environment binds paths of the catalog to texts and nothing else, so a check of what it binds
never meets a path that it does not know (`finding_ne_unknownProperty`). Texts for paths can be put
into the environment, each under the variable of its path (`ofTexts`). They come back unchanged if
no two paths of the catalog have one variable; and only then, for a text that is written for one of
two such paths is read for the other one as well (`hasOwnVariables_iff`). Other variables do no
harm: what is written lies above what they bind (`values_extend_ofTexts`).
-/

namespace PropertyCatalog

namespace Catalog

def HasPath (c : Catalog) (path : String) : Prop := ∃ p ∈ c.properties, p.path = path

/-- No two paths of the catalog have one variable. -/
def HasOwnVariables (c : Catalog) : Prop :=
  ∀ path path', c.HasPath path → c.HasPath path' → Environment.SharesVariable path path' →
    path = path'

end Catalog

namespace Environment

variable {env : Environment} {c : Catalog} {lead : Option String} {texts : TextMap String}
  {path : String}

/-! ## What is bound -/

theorem get?_values_eq_some_iff_hasPath {value : BoundValue} :
    (env.values c lead).get? path = some value ↔
      ∃ s, value = .text s ∧ c.HasPath path ∧ env.text? (variableName path lead) = some s := by
  rw [get?_values_eq_some_iff]
  constructor
  · rintro ⟨hpath, s, hs, rfl⟩
    exact ⟨s, rfl, hpath, hs⟩
  · rintro ⟨s, rfl, hpath, hs⟩
    exact ⟨hpath, s, hs, rfl⟩

theorem get?_values_of_hasPath (h : c.HasPath path) :
    (env.values c lead).get? path = (env.text? (variableName path lead)).map .text := by
  refine Option.ext fun value ↦ ?_
  rw [get?_values_eq_some_iff_hasPath, Option.map_eq_some_iff]
  constructor
  · rintro ⟨s, rfl, -, hs⟩
    exact ⟨s, hs, rfl⟩
  · rintro ⟨s, hs, rfl⟩
    exact ⟨s, rfl, h, hs⟩

theorem get?_values_of_not_hasPath (h : ¬c.HasPath path) :
    (env.values c lead).get? path = none := by
  refine Option.eq_none_iff_forall_ne_some.mpr fun value hvalue ↦ ?_
  obtain ⟨-, -, hpath, -⟩ := get?_values_eq_some_iff_hasPath.mp hvalue
  exact h hpath

theorem finding_ne_unknownProperty (h : c.IsIndexed) {i : Issue}
    (hi : i ∈ (c.validate (env.values c lead)).issues) : i.finding ≠ .unknownProperty := by
  cases h.mem_issues_validate_iff.mp hi with
  | missing | mismatch => exact nofun
  | unknown bound unknown =>
    obtain ⟨-, -, ⟨p, hp, hpath⟩, -⟩ := get?_values_eq_some_iff_hasPath.mp bound
    exact absurd hpath (unknown p hp)

/-! ## Writing -/

/-- The environment in which the variable of each path is set to the text of the path. -/
def ofTexts (texts : TextMap String) (lead : Option String) : Environment :=
  TextMap.ofList (texts.entries.map fun (path, s) ↦ (variableName path lead, some s))

/-- The texts are for paths of the catalog. -/
def AreTextsFor (texts : TextMap String) (c : Catalog) : Prop := ∀ path ∈ texts.keys, c.HasPath path

section

variable (hown : c.HasOwnVariables) (htexts : AreTextsFor texts c)

include hown htexts

theorem nodup_variableNames (lead : Option String) :
    (texts.keys.map (variableName · lead)).Nodup :=
  texts.nodup_keys.map_on fun path hpath path' hpath' heq ↦
    hown path path' (htexts path hpath) (htexts path' hpath') ((variableName_eq_iff lead).mp heq)

theorem get?_ofTexts (hpath : c.HasPath path) :
    (ofTexts texts lead).get? (variableName path lead) = (texts.get? path).map some := by
  have hnodup :
      ((texts.entries.map fun e ↦ (variableName e.1 lead, some e.2)).map (·.1)).Nodup := by
    have hnames := nodup_variableNames hown htexts lead
    rw [TextMap.keys, List.map_map] at hnames
    rw [List.map_map]
    exact hnames
  refine Option.ext fun text? ↦ ?_
  rw [ofTexts, TextMap.get?_ofList_eq_some_iff hnodup, List.mem_map, Option.map_eq_some_iff]
  constructor
  · rintro ⟨⟨path', s⟩, hmem, heq⟩
    obtain ⟨hname, rfl⟩ := Prod.mk.injEq .. ▸ heq
    have hget := TextMap.mem_entries_iff.mp hmem
    have hpath' := htexts path' (TextMap.mem_keys_iff.mpr ⟨s, hget⟩)
    obtain rfl := hown path' path hpath' hpath ((variableName_eq_iff lead).mp hname)
    exact ⟨s, hget, rfl⟩
  · rintro ⟨s, hget, rfl⟩
    exact ⟨(path, s), TextMap.mem_entries_iff.mpr hget, rfl⟩

/-! ## Reading back -/

/-- Texts that are written to the environment are read back, and what else is set in it is bound
beneath them. -/
theorem values_extend_ofTexts (env : Environment) (lead : Option String) :
    values (env.extend (ofTexts texts lead)) c lead
      = (env.values c lead).extend (texts.map .text) := by
  refine TextMap.ext_get? fun path ↦ ?_
  rw [TextMap.get?_extend, TextMap.get?_map]
  by_cases hpath : c.HasPath path
  · have htext : text? (env.extend (ofTexts texts lead)) (variableName path lead)
        = (texts.get? path).or (env.text? (variableName path lead)) := by
      rw [text?, TextMap.get?_extend, get?_ofTexts hown htexts hpath]
      cases texts.get? path <;> rfl
    rw [get?_values_of_hasPath hpath, htext, Option.map_or, get?_values_of_hasPath hpath]
  · have hnone : texts.get? path = none := by
      refine Option.eq_none_iff_forall_ne_some.mpr fun s hs ↦ hpath ?_
      exact htexts path (TextMap.mem_keys_iff.mpr ⟨s, hs⟩)
    rw [get?_values_of_not_hasPath hpath, get?_values_of_not_hasPath hpath, hnone]
    rfl

theorem values_ofTexts (lead : Option String) :
    (ofTexts texts lead).values c lead = texts.map .text := by
  have hempty : values ∅ c lead = ∅ := by
    refine TextMap.ext_get? fun path ↦ ?_
    by_cases hpath : c.HasPath path
    · rw [get?_values_of_hasPath hpath]
      rfl
    · rw [get?_values_of_not_hasPath hpath]
      rfl
  have hwritten := values_extend_ofTexts hown htexts ∅ lead
  rw [hempty] at hwritten
  -- nothing extended by a map is the map
  have hextend {α : Type} (m : TextMap α) : (∅ : TextMap α).extend m = m := m.ofList_entries
  rwa [hextend, hextend] at hwritten

end

/-- Only where every path has a variable of its own can all texts be read back. -/
theorem hasOwnVariables_iff (c : Catalog) (lead : Option String) :
    c.HasOwnVariables ↔
      ∀ texts, AreTextsFor texts c → (ofTexts texts lead).values c lead = texts.map .text := by
  constructor
  · intro hown texts htexts
    exact values_ofTexts hown htexts lead
  · intro hread path path' hpath hpath' hshares
    have htexts : AreTextsFor (.ofList [(path, "")]) c := by
      intro key hkey
      obtain rfl := List.mem_singleton.mp hkey
      exact hpath
    -- the text of the first path is read for the second, too
    have hbound : ((ofTexts (.ofList [(path, "")]) lead).values c lead).get? path'
        = some (.text "") := by
      rw [get?_values_of_hasPath hpath', ← (variableName_eq_iff lead).mpr hshares]
      have hget : (ofTexts (.ofList [(path, "")]) lead).get? (variableName path lead)
          = some (some "") := by
        exact TextMap.get?_insert ∅ _ _ _ |>.trans (if_pos rfl)
      rw [text?, hget]
      rfl
    rw [hread _ htexts, TextMap.get?_map, Option.map_eq_some_iff] at hbound
    obtain ⟨s, hs, -⟩ := hbound
    have hmem := List.mem_singleton.mp (TextMap.mem_of_get?_ofList hs)
    exact (congrArg Prod.fst hmem).symm

/-- **What the environment binds.** Each path of the catalog is bound to the text of its variable,
if there is one, and nothing else is bound; so no check of the values finds an unknown path. Paths
have one variable exactly if they are of one length and differ, place by place, at most in the case
of ASCII letters or in which of the dot, the hyphen and the underscore they have. If and only if no
two paths of the catalog are like that, all texts for its paths can be written to their variables
and are read back exactly. -/
theorem values_exact (env : Environment) (c : Catalog) (lead : Option String) :
    (∀ path value, (env.values c lead).get? path = some value ↔
      ∃ s, value = .text s ∧ c.HasPath path ∧ env.text? (variableName path lead) = some s) ∧
    (∀ groups, Catalog.build groups = .ok c → ∀ i ∈ (c.validate (env.values c lead)).issues,
      i.finding ≠ .unknownProperty) ∧
    (∀ path path', variableName path lead = variableName path' lead ↔
      SharesVariable path path') ∧
    (c.HasOwnVariables ↔ ∀ texts, AreTextsFor texts c →
      (ofTexts texts lead).values c lead = texts.map .text) := by
  refine ⟨fun path value ↦ get?_values_eq_some_iff_hasPath, fun groups hbuild i hi ↦ ?_,
    fun path path' ↦ variableName_eq_iff lead, hasOwnVariables_iff c lead⟩
  exact finding_ne_unknownProperty (Catalog.isIndexed_of_build hbuild) hi

/-- A property with a nested path and one with a hyphen in it, read with an opening. Of the
variables that are set one is the second property's, one has no text, and one is nobody's. -/
theorem values_exact_two_properties :
    let g : PropertyGroup := ⟨"app", none,
      [⟨"app.db.host", .string, none, true, "app", none, [], none⟩,
        ⟨"app.log-level", .string, none, false, "app", none, [], none⟩]⟩
    let c : Catalog := ⟨[g], .ofList [("app.db.host", ⟨0, 0⟩), ("app.log-level", ⟨0, 1⟩)]⟩
    let env : Environment := .ofList [("MY_APP_LOG_LEVEL", some "warn"), ("MY_APP_DB_HOST", none),
      ("MY_APP_DB_PORT", some "5432")]
    let texts : TextMap String := .ofList [("app.db.host", "::1"), ("app.log-level", "info")]
    Catalog.build [g] = .ok c ∧
      (env.values c (some "MY")).get? "app.log-level" = some (.text "warn") ∧
      (∀ i ∈ (c.validate (env.values c (some "MY"))).issues, i.finding ≠ .unknownProperty) ∧
      SharesVariable "app.log-level" "app_Log.Level" ∧
      (ofTexts texts (some "MY")).values c (some "MY") = texts.map .text := by
  intro g c env texts
  have hbuild : Catalog.build [g] = .ok c :=
    Catalog.build_eq_ok_iff.mpr ⟨(List.mergeSort_singleton g).symm, by decide, rfl⟩
  have htexts : ∀ path ∈ texts.keys, ∃ p ∈ c.properties, p.path = path := by decide +kernel
  have hnames : ∀ p ∈ c.properties, ∀ q ∈ c.properties,
      variableName p.path (some "MY") = variableName q.path (some "MY") → p.path = q.path := by
    decide +kernel
  obtain ⟨hbound, hknown, hshares, hread⟩ := values_exact env c (some "MY")
  have hown : c.HasOwnVariables := by
    rintro _ _ ⟨p, hp, rfl⟩ ⟨q, hq, rfl⟩ hpq
    exact hnames p hp q hq ((hshares p.path q.path).mpr hpq)
  have hchars :
      "app.log-level".toList.map variableChar = "app_Log.Level".toList.map variableChar := by
    decide +kernel
  have hshared :
      variableName "app.log-level" (some "MY") = variableName "app_Log.Level" (some "MY") := by
    rw [variableName, variableName, String.append_right_inj, ← String.toList_inj,
      String.toList_map, String.toList_map, hchars]
  refine ⟨hbuild, ?_, hknown [g] hbuild, (hshares _ _).mp hshared, hread.mp hown texts htexts⟩
  exact (hbound _ _).mpr ⟨"warn", rfl, ⟨_, .tail _ (.head _), rfl⟩, by decide +kernel⟩

end Environment

end PropertyCatalog
