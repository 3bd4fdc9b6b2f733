import PropertyCatalog.Proofs.CommandLine.ExitCode
import PropertyCatalog.Proofs.Environment.Written
import PropertyCatalog.Proofs.PropertiesText.Image
import PropertyCatalog.Proofs.Validation.Outline

/-!
# Blanks around values

A line of a properties file loses the blanks around its value; an explicit entry and a variable keep
them. That this is never seen in a verdict rests on one fact: whatever the type, a text is judged
without the blanks around it (`BoundValue.coercesTo_trimmed`). So values and the same values without
these blanks have one outline, and so have the reports of checks that get the same texts from
different places (`IsGivenTexts`).
-/

namespace PropertyCatalog

open Text

/-! ## Values without blanks -/

namespace BoundValue

/-- The value without the blanks around it, if it is a text. -/
def trimmed : BoundValue → BoundValue
  | text s => text (trim s)
  | value => value

/-- Whatever the type, a value is taken with the blanks around it or without them, or not at all. -/
theorem coercesTo_trimmed (value : BoundValue) (type : SemanticType) (members : List String) :
    value.trimmed.coercesTo type members = value.coercesTo type members := by
  cases value with
  | text s => exact textCoercesTo_trim s type members
  | integer | boolean | duration => rfl

end BoundValue

/-- Values that are equal up to the blanks around texts have one outline. -/
theorem Catalog.outline_validate_congr (c : Catalog) {v w : BoundValues}
    (h : ∀ path, (v.get? path).map BoundValue.trimmed = (w.get? path).map BoundValue.trimmed) :
    (c.validate v).outline = (c.validate w).outline := by
  have hmap : v.map BoundValue.trimmed = w.map BoundValue.trimmed := by
    refine TextMap.ext_get? fun path ↦ ?_
    rw [TextMap.get?_map, TextMap.get?_map, h path]
  rw [← outline_validate_map BoundValue.coercesTo_trimmed c v, hmap,
    outline_validate_map BoundValue.coercesTo_trimmed c w]

namespace CommandLine

/-! ## One text from three places -/

/-- The check gets its values from one place, and there some texts are given for paths: on the lines
of a properties file, as explicit entries, or in the variables of the paths. -/
inductive IsGivenTexts (texts : TextMap String) (files : Files) (env : Environment) (c : Catalog) :
    ValidateOptions → Prop
  /-- A properties file has the line `path=text` for each of them. -/
  | file {o : ValidateOptions} {file : String} (values : o.values = [file])
      (no_environment : o.env = false) (no_entries : o.overrides = [])
      (format : FileFormat.ofPath file = .ok .properties)
      (holds : files file = .text (PropertiesText.write (texts.map .text)))
      (lines : ∀ path s, texts.get? path = some s →
        PropertiesText.IsLineKey path ∧ '\n' ∉ s.toList) : IsGivenTexts texts files env c o
  /-- There is the entry `path=text` for each of them. -/
  | entries {o : ValidateOptions} (no_file : o.values = []) (no_environment : o.env = false)
      (entries : o.overrides = texts.entries.map fun e ↦ e.1 ++ "=" ++ e.2)
      (plain : ∀ path ∈ texts.keys, '=' ∉ path.toList ∧ trim path = path) :
      IsGivenTexts texts files env c o
  /-- They are for paths of the catalog, whose variables are set to them and to nothing else. -/
  | environment {o : ValidateOptions} (no_file : o.values = []) (environment : o.env = true)
      (no_entries : o.overrides = []) (known : Environment.AreTextsFor texts c)
      (variable_sets : ∀ path, c.HasPath path →
        env.text? (Environment.variableName path o.envLead) = texts.get? path) :
      IsGivenTexts texts files env c o

variable {texts : TextMap String} {files : Files} {env : Environment} {c : Catalog}
  {o o' : ValidateOptions}

/-! ### What each place binds -/

/-- Lines bind the texts without the blanks around them. -/
theorem loadValues_of_lines {file : String} (hformat : FileFormat.ofPath file = .ok .properties)
    (hholds : files file = .text (PropertiesText.write (texts.map .text)))
    (hlines : ∀ path s, texts.get? path = some s →
      PropertiesText.IsLineKey path ∧ '\n' ∉ s.toList) :
    loadValues files file = .ok (texts.map fun s ↦ .text (trim s)) := by
  have hfile : files.read file = .ok (PropertiesText.write (texts.map .text)) := by
    rw [Files.read, hholds]
  rw [← PropertiesText.read_write_map_text hlines]
  simp only [loadValues, hformat, hfile]
  rfl

theorem explicitValues_of_entries
    (hentries : o.overrides = texts.entries.map fun e ↦ e.1 ++ "=" ++ e.2)
    (hplain : ∀ path ∈ texts.keys, '=' ∉ path.toList ∧ trim path = path) :
    ∃ overrides, o.explicitValues = .ok overrides ∧
      ∀ path, overrides.bind (·.get? path) = (texts.get? path).map .text := by
  have hread : o.overrides.mapM readOverride = .ok (texts.map BoundValue.text).entries := by
    rw [Outcome.mapM_eq_ok_iff, hentries, TextMap.map, List.forall₂_map_left_iff,
      List.forall₂_map_right_iff, List.forall₂_same]
    rintro ⟨path, s⟩ hmem
    obtain ⟨hfree, htrim⟩ := hplain path (List.mem_map_of_mem hmem)
    have hsplit : (path ++ "=" ++ s).toList = path.toList ++ '=' :: s.toList := by simp
    have hsets := Sets.cut hsplit hfree htrim
    rw [String.ofList_toList] at hsets
    exact readOverride_eq_ok_iff.mpr hsets
  refine ⟨_, by rw [ValidateOptions.explicitValues, hread]; rfl, fun path ↦ ?_⟩
  beta_reduce
  rw [← TextMap.get?_map, TextMap.ofList_entries]
  cases hempty : (texts.map BoundValue.text).entries.isEmpty with
  | true =>
    rw [if_pos rfl, Option.bind_none, TextMap.get?, List.isEmpty_iff.mp hempty]
    rfl
  | false => rw [if_neg Bool.false_ne_true, Option.bind_some]

theorem get?_envValues_of_variables (hasked : o.env = true)
    (hknown : Environment.AreTextsFor texts c)
    (hset : ∀ path, c.HasPath path →
      env.text? (Environment.variableName path o.envLead) = texts.get? path) (path : String) :
    (o.envValues env c).get? path = (texts.get? path).map .text := by
  rw [ValidateOptions.envValues, if_pos hasked]
  by_cases hpath : c.HasPath path
  · rw [Environment.get?_values_of_hasPath hpath, hset path hpath]
  · have hnone : texts.get? path = none := by
      refine Option.eq_none_iff_forall_ne_some.mpr fun s hs ↦ hpath ?_
      exact hknown path (TextMap.mem_keys_iff.mpr ⟨s, hs⟩)
    rw [Environment.get?_values_of_not_hasPath hpath, hnone, Option.map_none]

/-! ### One report -/

theorem exists_sources_of_places {file : BoundValues} {overrides : Option BoundValues}
    (hfile : o.fileValues files = .ok file) (hoverrides : o.explicitValues = .ok overrides) :
    ∃ sources, o.sources files env c = .ok sources ∧ ∀ path, sources.merge.get? path
      = (overrides.bind (·.get? path)).or
          (((o.envValues env c).get? path).or (file.get? path)) :=
  ⟨⟨file, o.envValues env c, overrides⟩,
    ValidateOptions.sources_eq_ok_iff.mpr ⟨hfile, hoverrides, rfl⟩, fun path ↦
      Sources.get?_merge _ path⟩

/-- Wherever the texts are given, the check sees them, up to the blanks around them, and nothing
else. -/
theorem IsGivenTexts.exists_sources (h : IsGivenTexts texts files env c o) :
    ∃ sources, o.sources files env c = .ok sources ∧
      ∀ path, (sources.merge.get? path).map BoundValue.trimmed
        = (texts.get? path).map fun s ↦ .text (trim s) := by
  have hno_file (h : o.values = []) : o.fileValues files = .ok ∅ := by
    rw [ValidateOptions.fileValues, h]
    rfl
  have hno_entries (h : o.overrides = []) : o.explicitValues = .ok none := by
    rw [ValidateOptions.explicitValues, h]
    rfl
  have hno_environment (h : o.env = false) : o.envValues env c = ∅ := by
    rw [ValidateOptions.envValues, h]
    rfl
  cases h with
  | file values no_environment no_entries format holds lines =>
    have hfile : o.fileValues files = .ok (texts.map fun s ↦ .text (trim s)) := by
      have hlayers : o.LoadsLayers files [texts.map fun s ↦ .text (trim s)] := by
        rw [ValidateOptions.LoadsLayers, values]
        exact .cons (loadValues_of_lines format holds lines) .nil
      refine ValidateOptions.fileValues_eq_ok_iff.mpr ⟨_, hlayers, ?_⟩
      exact TextMap.ofList_entries _
    obtain ⟨sources, hsources, hget⟩ := exists_sources_of_places hfile (hno_entries no_entries)
    refine ⟨sources, hsources, fun path ↦ ?_⟩
    rw [hget, hno_environment no_environment, Option.bind_none, Option.none_or, TextMap.get?_empty,
      Option.none_or, TextMap.get?_map, Option.map_map]
    exact Option.map_congr fun s _ ↦ congrArg BoundValue.text (trim_trim s)
  | entries no_file no_environment entries plain =>
    obtain ⟨overrides, hoverrides, hbound⟩ := explicitValues_of_entries entries plain
    obtain ⟨sources, hsources, hget⟩ := exists_sources_of_places (hno_file no_file) hoverrides
    refine ⟨sources, hsources, fun path ↦ ?_⟩
    rw [hget, hbound, hno_environment no_environment, TextMap.get?_empty, Option.or_none,
      Option.or_none, Option.map_map]
    rfl
  | environment no_file environment no_entries known variable_sets =>
    obtain ⟨sources, hsources, hget⟩ :=
      exists_sources_of_places (hno_file no_file) (hno_entries no_entries)
    refine ⟨sources, hsources, fun path ↦ ?_⟩
    rw [hget, get?_envValues_of_variables environment known variable_sets, Option.bind_none,
      Option.none_or, TextMap.get?_empty, Option.or_none, Option.map_map]
    rfl

theorem failed_congr_outline {r r' : Report} (h : r.outline = r'.outline) (strict : Bool) :
    (Verdict.mk r strict).failed = (Verdict.mk r' strict).failed := by
  have hwarnings (r : Report) :
      r.warnings.isEmpty = (r.outline.filter (·.1 = .warning)).isEmpty := by
    rw [← Report.map_outline_warnings, List.isEmpty_map]
  rw [Verdict.failed, Verdict.failed, Report.isValid_eq_outline, Report.isValid_eq_outline,
    hwarnings, hwarnings, h]

/-- Checks that get the same texts make reports with one outline. -/
theorem exists_sources_of_isGivenTexts (h : IsGivenTexts texts files env c o)
    (h' : IsGivenTexts texts files env c o') :
    ∃ sources sources', o.sources files env c = .ok sources ∧
      o'.sources files env c = .ok sources' ∧
        (c.validate sources.merge).outline = (c.validate sources'.merge).outline := by
  obtain ⟨sources, hsources, hget⟩ := h.exists_sources
  obtain ⟨sources', hsources', hget'⟩ := h'.exists_sources
  refine ⟨sources, sources', hsources, hsources', c.outline_validate_congr fun path ↦ ?_⟩
  rw [hget, hget']

theorem exitCode_of_isGivenTexts {catalog : CatalogOptions} {arguments arguments' : List String}
    (hload : catalog.load files = .ok c) (h : IsGivenTexts texts files env c o)
    (h' : IsGivenTexts texts files env c o') (hstrict : o.strict = o'.strict)
    (haccepted : AcceptedAs env arguments catalog o)
    (haccepted' : AcceptedAs env arguments' catalog o') :
    exitCode files env arguments = exitCode files env arguments' := by
  obtain ⟨sources, sources', hsources, hsources', houtline⟩ := exists_sources_of_isGivenTexts h h'
  have hreports : Reports files env catalog o (c.validate sources.merge) :=
    reports_iff.mpr ⟨c, hload, sources, hsources, rfl⟩
  have hreports' : Reports files env catalog o' (c.validate sources'.merge) :=
    reports_iff.mpr ⟨c, hload, sources', hsources', rfl⟩
  rw [exitCode_of_reports haccepted hreports, exitCode_of_reports haccepted' hreports', hstrict,
    failed_congr_outline houtline]

/-- **Blanks around values decide nothing.** A text is taken by a type exactly if it is without the
blanks around it. So values without these blanks are reported as the values are, but for the
wording; and whether a check gets some texts from a properties file, which drops the blanks, or from
entries or variables, which keep them, it tells the same, and the program exits with the same
code. -/
theorem validate_trimmed (c : Catalog) :
    (∀ s type members, (BoundValue.text s).coercesTo type members
      = (BoundValue.text (trim s)).coercesTo type members) ∧
    (∀ values, (c.validate (values.map BoundValue.trimmed)).outline
      = (c.validate values).outline) ∧
    ∀ texts (files : Files) env o o', IsGivenTexts texts files env c o →
      IsGivenTexts texts files env c o' →
        (∃ sources sources', o.sources files env c = .ok sources ∧
          o'.sources files env c = .ok sources' ∧
            (c.validate sources.merge).outline = (c.validate sources'.merge).outline) ∧
        ∀ catalog arguments arguments', catalog.load files = .ok c → o.strict = o'.strict →
          AcceptedAs env arguments catalog o → AcceptedAs env arguments' catalog o' →
            exitCode files env arguments = exitCode files env arguments' := by
  refine ⟨fun s type members ↦ (textCoercesTo_trim s type members).symm, fun values ↦ ?_,
    fun texts files env o o' h h' ↦ ⟨exists_sources_of_isGivenTexts h h', ?_⟩⟩
  · exact c.outline_validate_map BoundValue.coercesTo_trimmed values
  · intro catalog arguments arguments' hload hstrict haccepted haccepted'
    exact exitCode_of_isGivenTexts hload h h' hstrict haccepted haccepted'

/-- An integer with blanks around it, on a line, in an entry and in a variable. -/
theorem validate_trimmed_three_places :
    let t : FileTree := (FileTree.empty.put "d.yaml"
      (.file (some "groups:\n- prefix: x\n  fields:\n  - name: one\n    type: u8\n"))).put
        "v.properties" (.file (some "x.one= 8 "))
    let env : Environment := .ofList [("X_ONE", some " 8 ")]
    let texts : TextMap String := .ofList [("x.one", " 8 ")]
    let catalog : CatalogOptions := ⟨["d.yaml"], false, []⟩
    let group : PropertyGroup :=
      ⟨"x", none, [⟨"x.one", .integer, none, true, "x", none, [], none⟩]⟩
    let c : Catalog := ⟨[group.resolveLabels], .ofList [("x.one", ⟨0, 0⟩)]⟩
    let file : ValidateOptions := ⟨["v.properties"], false, none, [], false, false⟩
    let entry : ValidateOptions := ⟨[], false, none, ["x.one= 8 "], false, false⟩
    let environment : ValidateOptions := ⟨[], true, none, [], false, false⟩
    catalog.load t.files = .ok c ∧ IsGivenTexts texts t.files env c file ∧
      IsGivenTexts texts t.files env c entry ∧ IsGivenTexts texts t.files env c environment ∧
        exitCode t.files env ["validate", "-d", "d.yaml", "-v", "v.properties"]
          = exitCode t.files env ["validate", "-d", "d.yaml", "--set", "x.one= 8 "] ∧
        exitCode t.files env ["validate", "-d", "d.yaml", "-v", "v.properties"]
          = exitCode t.files env ["validate", "-d", "d.yaml", "--env"] := by
  intro t env texts catalog group c file entry environment
  let declared : Declaration.Group :=
    { root := "x", fields := [{ name := "one", declaredType := "u8" }] }
  have hscan : ScanPolicy.scanGroup (catalog.policyWith []) 0 declared = .ok group := by
    decide +kernel
  have hbuild : (catalog.policyWith []).buildCatalog [declared] = .ok c :=
    ScanPolicy.buildCatalog_singleton hscan (by decide)
  have hdocument : loadDeclarations t.files "d.yaml" = .ok ⟨[declared]⟩ := by decide +kernel
  have hload : catalog.load t.files = .ok c :=
    CatalogOptions.load_eq_ok_iff.mpr (.intro (.cons hdocument .nil) .nil hbuild)
  have htexts : ∀ path s, texts.get? path = some s → path = "x.one" ∧ s = " 8 " := by
    intro path s hget
    simpa using TextMap.mem_of_get?_ofList hget
  have hkey : PropertiesText.IsLineKey "x.one" :=
    ⟨by decide, by decide, by decide +kernel, by decide⟩
  have hfile : IsGivenTexts texts t.files env c file := by
    refine .file rfl rfl rfl (by decide +kernel) (by decide +kernel) fun path s hget ↦ ?_
    obtain ⟨rfl, rfl⟩ := htexts path s hget
    exact ⟨hkey, by decide⟩
  have hentry : IsGivenTexts texts t.files env c entry :=
    .entries rfl rfl rfl (by decide +kernel)
  have hknown : ∀ path ∈ texts.keys, ∃ p ∈ c.properties, p.path = path := by decide +kernel
  have hset : ∀ p ∈ c.properties,
      env.text? (Environment.variableName p.path none) = texts.get? p.path := by decide +kernel
  have henvironment : IsGivenTexts texts t.files env c environment := by
    refine .environment rfl rfl rfl hknown ?_
    rintro _ ⟨p, hp, rfl⟩
    exact hset p hp
  obtain ⟨-, -, hsame⟩ := validate_trimmed c
  have haccepted :
      AcceptedAs env ["validate", "-d", "d.yaml", "-v", "v.properties"] catalog file := by
    unfold AcceptedAs
    decide +kernel
  have haccepted' :
      AcceptedAs env ["validate", "-d", "d.yaml", "--set", "x.one= 8 "] catalog entry := by
    unfold AcceptedAs
    decide +kernel
  have haccepted'' : AcceptedAs env ["validate", "-d", "d.yaml", "--env"] catalog environment := by
    unfold AcceptedAs
    decide +kernel
  refine ⟨hload, hfile, hentry, henvironment, ?_, ?_⟩
  · exact (hsame texts t.files env file entry hfile hentry).2 _ _ _ hload rfl haccepted haccepted'
  · exact (hsame texts t.files env file environment hfile henvironment).2 _ _ _ hload rfl haccepted
      haccepted''

end CommandLine

end PropertyCatalog
