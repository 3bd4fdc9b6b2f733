import PropertyCatalog.CommandLine.Run
import PropertyCatalog.Proofs.Outcome
import PropertyCatalog.Proofs.TextMap.Writes

/-!
# Layers of values

Which value a check sees at a path. The values come from several places, and each place is a step
of its own in the program: files laid over each other, variables looked up property by property,
entries collected, and two merges at the end. `LayeredValue` says what comes of all this at one path
without any of the steps: the last entry that sets the path, else the variable of the path, else the
last file that binds it.

Each place is first described by what it binds at a path. Precedence is then the one fact how merged
sources are looked up (`Sources.get?_merge`).
-/

namespace PropertyCatalog.CommandLine

open Text

/-! ## Explicit values -/

/-- An entry sets a path to what stands behind its first `=`; what stands in front is the path, but
for blanks around it. -/
inductive Sets (path entry : String) : BoundValue → Prop
  /-- The entry is cut at its first `=`. -/
  | cut {name value : List Char} (split : entry.toList = name ++ '=' :: value)
      (first : '=' ∉ name) (trims : String.ofList (trimmed name) = path) :
      Sets path entry (.text (String.ofList value))

theorem readOverride_eq_ok_iff {path entry : String} {value : BoundValue} :
    readOverride entry = .ok (path, value) ↔ Sets path entry value := by
  rw [readOverride]
  constructor
  · intro h
    split at h
    next => cases h
    next name text hcut =>
      cases h
      obtain ⟨hsplit, hfirst⟩ := cut?_char_eq_some_iff.mp hcut
      exact .cut hsplit hfirst rfl
  · rintro ⟨hsplit, hfirst, rfl⟩
    rw [cut?_char_eq_some_iff.mpr ⟨hsplit, hfirst⟩]

theorem Sets.unique {path path' entry : String} {value value' : BoundValue}
    (h : Sets path entry value) (h' : Sets path' entry value') : path = path' ∧ value = value' := by
  have hread := readOverride_eq_ok_iff.mpr h
  rw [readOverride_eq_ok_iff.mpr h', Except.ok.injEq, Prod.mk.injEq] at hread
  exact ⟨hread.1.symm, hread.2.symm⟩

theorem exists_readOverride_iff {entry : String} :
    (∃ e, readOverride entry = .ok e) ↔ '=' ∈ entry.toList := by
  rw [← exists_cut?_char_iff, readOverride]
  cases cut? (· = '=') entry.toList <;> simp

namespace ValidateOptions

variable {o : ValidateOptions} {files : Files} {env : Environment} {c : Catalog} {path : String}
  {value : BoundValue}

theorem exists_explicitValues_iff :
    (∃ overrides, o.explicitValues = .ok overrides) ↔
      ∀ entry ∈ o.overrides, '=' ∈ entry.toList := by
  have hread : (∃ overrides, o.explicitValues = .ok overrides) ↔
      ∃ entries, o.overrides.mapM readOverride = .ok entries := by
    simp [explicitValues, Outcome.map_eq_ok_iff]
  simp only [hread, Outcome.exists_mapM_ok_iff, exists_readOverride_iff]

/-- The explicit values bind a path to what the last entry says that sets it. -/
theorem get?_of_explicitValues {overrides : Option BoundValues}
    (h : o.explicitValues = .ok overrides) :
    overrides.bind (·.get? path) = some value ↔ LastBinds (Sets path) o.overrides value := by
  obtain ⟨entries, hentries, rfl⟩ := Outcome.map_eq_ok_iff.mp h
  -- no entries and a map without entries show the same
  have hget : (if entries.isEmpty then none else some (TextMap.ofList entries)).bind
      (·.get? path) = (TextMap.ofList entries).get? path := by
    cases entries with
    | nil => rfl
    | cons e es => rfl
  rw [hget, TextMap.get?_ofList_eq_some_iff_lastBinds]
  refine (lastBinds_iff_of_forall₂ (Outcome.mapM_eq_ok_iff.mp hentries) ?_).symm
  intro entry e v hread
  rw [← readOverride_eq_ok_iff, hread, Except.ok.injEq]

/-! ## Variables -/

/-- The environment is asked for values, and the variable of a path of the catalog has this text. -/
structure VariableSets (o : ValidateOptions) (env : Environment) (c : Catalog)
    (path text : String) : Prop where
  /-- Values come from the environment. -/
  asked : o.env = true
  /-- The catalog has the path. -/
  known : ∃ p ∈ c.properties, p.path = path
  /-- The variable is set to the text. -/
  text_eq : env.text? (Environment.variableName path o.envLead) = some text

theorem get?_envValues_eq_some_iff :
    (o.envValues env c).get? path = some value ↔
      ∃ text, o.VariableSets env c path text ∧ value = .text text := by
  rw [envValues]
  cases hasked : o.env with
  | false =>
    rw [if_neg Bool.false_ne_true, TextMap.get?_empty]
    constructor
    · rintro ⟨⟩
    · rintro ⟨text, hset, -⟩
      exact absurd hset.asked (hasked ▸ Bool.false_ne_true)
  | true =>
    rw [if_pos rfl, Environment.get?_values_eq_some_iff]
    constructor
    · rintro ⟨hknown, text, htext, hvalue⟩
      exact ⟨text, ⟨hasked, hknown, htext⟩, hvalue⟩
    · rintro ⟨text, hset, hvalue⟩
      exact ⟨hset.known, text, hset.text_eq, hvalue⟩

/-! ## Files -/

/-- The files of a check load as these values. -/
def LoadsLayers (o : ValidateOptions) (files : Files) (layers : List BoundValues) : Prop :=
  List.Forall₂ (fun file values ↦ loadValues files file = .ok values) o.values layers

theorem fileValues_eq_ok_iff {values : BoundValues} :
    o.fileValues files = .ok values ↔
      ∃ layers, o.LoadsLayers files layers ∧ layers.foldl TextMap.extend ∅ = values := by
  simp only [fileValues, LoadsLayers, Outcome.map_eq_ok_iff, Outcome.mapM_eq_ok_iff,
    Outcome.mapError_eq_ok_iff]

/-! ## All of them -/

/-- The value of a path: what the last entry says that sets it; else the text of its variable, if
that counts; else what the last file binds that binds it. -/
inductive LayeredValue (o : ValidateOptions) (layers : List BoundValues) (env : Environment)
    (c : Catalog) (path : String) : BoundValue → Prop
  /-- An entry sets the path. -/
  | ofEntry {value : BoundValue} (last : LastBinds (Sets path) o.overrides value) :
      LayeredValue o layers env c path value
  /-- No entry sets it, but its variable does. -/
  | ofVariable {text : String} (no_entry : ∀ entry ∈ o.overrides, ∀ value, ¬Sets path entry value)
      (variable_sets : o.VariableSets env c path text) :
      LayeredValue o layers env c path (.text text)
  /-- Neither does, but a file binds it. -/
  | ofFile {value : BoundValue} (no_entry : ∀ entry ∈ o.overrides, ∀ value, ¬Sets path entry value)
      (no_variable : ∀ text, ¬o.VariableSets env c path text)
      (last : LastBinds (fun values value ↦ values.get? path = some value) layers value) :
      LayeredValue o layers env c path value

theorem sources_eq_ok_iff {sources : Sources} :
    o.sources files env c = .ok sources ↔
      o.fileValues files = .ok sources.file ∧ o.explicitValues = .ok sources.overrides ∧
        o.envValues env c = sources.env := by
  simp only [ValidateOptions.sources, Outcome.bind_eq_ok_iff, Except.ok.injEq]
  constructor
  · rintro ⟨file, hfile, overrides, hoverrides, rfl⟩
    exact ⟨hfile, hoverrides, rfl⟩
  · rintro ⟨hfile, hoverrides, henv⟩
    exact ⟨_, hfile, _, hoverrides, henv ▸ rfl⟩

/-- The values from all sources are there when every file loads and every entry has a `=`. -/
theorem exists_sources_iff :
    (∃ sources, o.sources files env c = .ok sources) ↔
      (∃ layers, o.LoadsLayers files layers) ∧ ∀ entry ∈ o.overrides, '=' ∈ entry.toList := by
  rw [← exists_explicitValues_iff]
  constructor
  · rintro ⟨sources, hsources⟩
    obtain ⟨hfile, hoverrides, -⟩ := sources_eq_ok_iff.mp hsources
    obtain ⟨layers, hlayers, -⟩ := fileValues_eq_ok_iff.mp hfile
    exact ⟨⟨layers, hlayers⟩, _, hoverrides⟩
  · rintro ⟨⟨layers, hlayers⟩, overrides, hoverrides⟩
    have hfile := fileValues_eq_ok_iff.mpr ⟨layers, hlayers, rfl⟩
    exact ⟨⟨_, _, overrides⟩, sources_eq_ok_iff.mpr ⟨hfile, hoverrides, rfl⟩⟩

theorem get?_merge_of_sources {sources : Sources} {layers : List BoundValues}
    (hsources : o.sources files env c = .ok sources) (hlayers : o.LoadsLayers files layers) :
    sources.merge.get? path = some value ↔ LayeredValue o layers env c path value := by
  obtain ⟨hfile, hoverrides, henv⟩ := sources_eq_ok_iff.mp hsources
  have hlayered : o.fileValues files = .ok (layers.foldl TextMap.extend ∅) :=
    fileValues_eq_ok_iff.mpr ⟨layers, hlayers, rfl⟩
  have hfile' : layers.foldl TextMap.extend ∅ = sources.file :=
    Except.ok.inj (hlayered.symm.trans hfile)
  -- what each place binds, and where it binds nothing
  have hentry : ∀ v, sources.overrides.bind (·.get? path) = some v ↔
      LastBinds (Sets path) o.overrides v := fun v ↦ get?_of_explicitValues hoverrides
  have hvariable : ∀ v, sources.env.get? path = some v ↔
      ∃ text, o.VariableSets env c path text ∧ v = .text text := by
    intro v
    rw [← henv, get?_envValues_eq_some_iff]
  have hlast : ∀ v, sources.file.get? path = some v ↔
      LastBinds (fun values v ↦ values.get? path = some v) layers v := by
    intro v
    rw [← hfile', TextMap.get?_foldl_extend_eq_some_iff]
  have hno_entry : sources.overrides.bind (·.get? path) = none ↔
      ∀ entry ∈ o.overrides, ∀ v, ¬Sets path entry v := by
    simp only [Option.eq_none_iff_forall_ne_some, ne_eq, hentry, forall_not_lastBinds_iff]
  have hno_variable : sources.env.get? path = none ↔ ∀ text, ¬o.VariableSets env c path text := by
    simp only [Option.eq_none_iff_forall_ne_some, ne_eq, hvariable]
    constructor
    · intro h text hset
      exact h (.text text) ⟨text, hset, rfl⟩
    · rintro h v ⟨text, hset, -⟩
      exact h text hset
  rw [Sources.get?_merge, Option.or_eq_some_iff, Option.or_eq_some_iff, hentry, hno_entry,
    hvariable, hno_variable, hlast]
  constructor
  · rintro (hv | ⟨hfree, ⟨text, hset, rfl⟩ | ⟨hunset, hv⟩⟩)
    · exact .ofEntry hv
    · exact .ofVariable hfree hset
    · exact .ofFile hfree hunset hv
  · rintro (hv | ⟨hfree, hset⟩ | ⟨hfree, hunset, hv⟩)
    · exact .inl hv
    · exact .inr ⟨hfree, .inl ⟨_, hset, rfl⟩⟩
    · exact .inr ⟨hfree, .inr ⟨hunset, hv⟩⟩

/-- A check succeeds when the catalog and the values are there, and it does nothing but to tell the
verdict on them. -/
theorem effect_validate_eq_ok_iff {catalog : CatalogOptions} {e : Effect} :
    (Command.validate catalog o).effect files env = .ok e ↔
      ∃ c, catalog.load files = .ok c ∧ ∃ sources, o.sources files env c = .ok sources ∧
        .done (.ofVerdict ⟨c.validate sources.merge, o.strict⟩ o.json) = e := by
  simp only [Command.effect, Outcome.bind_eq_ok_iff, Except.ok.injEq]

theorem sources_congr_of_env_eq_false (h : o.env = false) (lead : Option String)
    (env' : Environment) :
    { o with envLead := lead }.sources files env' c = o.sources files env c := by
  have henv : ∀ (o' : ValidateOptions) (env : Environment), o'.env = false →
      o'.envValues env c = ∅ := by
    intro o' env h'
    rw [envValues, h', if_neg Bool.false_ne_true]
  have hhere := henv o env h
  have hthere := henv { o with envLead := lead } env' h
  rw [ValidateOptions.sources, ValidateOptions.sources, hhere, hthere]
  rfl

/-- **Layering.** If the files of a check load and every entry has a `=`, then the check is about
values that show at each path its layered value, and nothing where there is none. Unless the
environment is asked, they are the same whatever is set in it. -/
theorem merge_sources_layered {layers : List BoundValues} (hlayers : o.LoadsLayers files layers)
    (hentries : ∀ entry ∈ o.overrides, '=' ∈ entry.toList) :
    ∃ sources, o.sources files env c = .ok sources ∧
      (∀ catalog : CatalogOptions, catalog.load files = .ok c →
        (Command.validate catalog o).effect files env
          = .ok (.done (.ofVerdict ⟨c.validate sources.merge, o.strict⟩ o.json))) ∧
      (∀ path value,
        sources.merge.get? path = some value ↔ o.LayeredValue layers env c path value) ∧
      (o.env = false → ∀ env' lead,
        { o with envLead := lead }.sources files env' c = .ok sources) := by
  obtain ⟨sources, hsources⟩ := exists_sources_iff.mpr ⟨⟨layers, hlayers⟩, hentries⟩
  refine ⟨sources, hsources, fun catalog hcatalog ↦ ?_, fun path value ↦ ?_, fun h env' lead ↦ ?_⟩
  · exact effect_validate_eq_ok_iff.mpr ⟨c, hcatalog, sources, hsources, rfl⟩
  · exact get?_merge_of_sources hsources hlayers
  · rw [sources_congr_of_env_eq_false h lead env', hsources]

/-- Two files, the environment and two entries for one path, one of them with blanks around the path
and a second `=`. The paths are bound by more than one place each, and one is not in the catalog. -/
theorem merge_sources_layered_four_paths :
    let files : Files := fun path ↦
      if path = "a.properties" then .text "x.one=1\nx.two=1\nx.three=1\nx.four=1" else
      if path = "b.properties" then .text "x.three=2" else .missing
    let property (path : String) : Property := ⟨path, .string, none, false, "x", none, [], none⟩
    let c : Catalog := ⟨[⟨"x", none, [property "x.one", property "x.three", property "x.two"]⟩],
      .ofList [("x.one", ⟨0, 0⟩), ("x.three", ⟨0, 1⟩), ("x.two", ⟨0, 2⟩)]⟩
    let env : Environment := .ofList [("APP_X_ONE", some "3"), ("APP_X_TWO", some "3"),
      ("APP_X_THREE", none), ("APP_X_FOUR", some "3")]
    let o : ValidateOptions := ⟨["a.properties", "b.properties"], true, some "app",
      ["x.one=4", " x.one =5=6"], false, false⟩
    let below : BoundValues := .ofList [("x.one", .text "1"), ("x.two", .text "1"),
      ("x.three", .text "1"), ("x.four", .text "1")]
    let above : BoundValues := .ofList [("x.three", .text "2")]
    o.LoadsLayers files [below, above] ∧
      ∃ sources, o.sources files env c = .ok sources ∧
        sources.merge.get? "x.one" = some (.text "5=6") ∧
        sources.merge.get? "x.two" = some (.text "3") ∧
        sources.merge.get? "x.three" = some (.text "2") ∧
        sources.merge.get? "x.four" = some (.text "1") := by
  intro files property c env o below above
  have hlayers : o.LoadsLayers files [below, above] :=
    .cons (by decide +kernel) (.cons (by decide +kernel) .nil)
  have hentries : ∀ entry ∈ o.overrides, '=' ∈ entry.toList := by decide +kernel
  obtain ⟨sources, hsources, -, hget, -⟩ :=
    @merge_sources_layered o files env c [below, above] hlayers hentries
  have hfirst : Sets "x.one" "x.one=4" (.text "4") := readOverride_eq_ok_iff.mp (by decide +kernel)
  have hsecond : Sets "x.one" " x.one =5=6" (.text "5=6") :=
    readOverride_eq_ok_iff.mp (by decide +kernel)
  have hother : ∀ path, path ≠ "x.one" → ∀ entry ∈ o.overrides, ∀ v, ¬Sets path entry v := by
    intro path hpath
    refine List.forall_mem_cons.mpr ⟨fun v h ↦ hpath (h.unique hfirst).1, ?_⟩
    exact List.forall_mem_singleton.mpr fun v h ↦ hpath (h.unique hsecond).1
  have hset : o.VariableSets env c "x.two" "3" :=
    ⟨rfl, ⟨property "x.two", by decide, rfl⟩, by decide +kernel⟩
  have hunset : ∀ text, ¬o.VariableSets env c "x.three" text := by
    intro text h
    have hnone : env.text? (Environment.variableName "x.three" o.envLead) = none := by
      decide +kernel
    exact absurd (hnone.symm.trans h.text_eq) (by simp)
  have hunknown : ∀ text, ¬o.VariableSets env c "x.four" text :=
    fun text h ↦ absurd h.known (by decide)
  have habove : above.get? "x.four" = none := by decide +kernel
  refine ⟨hlayers, sources, hsources, (hget _ _).mpr (.ofEntry ?_),
    (hget _ _).mpr (.ofVariable (hother _ (by decide)) hset),
    (hget _ _).mpr (.ofFile (hother _ (by decide)) hunset ?_),
    (hget _ _).mpr (.ofFile (hother _ (by decide)) hunknown ?_)⟩
  · exact ⟨["x.one=4"], " x.one =5=6", [], rfl, hsecond, nofun⟩
  · exact ⟨[below], above, [], rfl, by decide +kernel, nofun⟩
  · refine ⟨[], below, [above], rfl, by decide +kernel, List.forall_mem_singleton.mpr ?_⟩
    intro v hv
    exact absurd (habove.symm.trans hv) (by simp)

end ValidateOptions

end PropertyCatalog.CommandLine
