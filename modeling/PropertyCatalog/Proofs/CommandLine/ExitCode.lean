import PropertyCatalog.Proofs.CommandLine.Aliases
import PropertyCatalog.Proofs.CommandLine.Flags
import PropertyCatalog.Proofs.CommandLine.Layers
import PropertyCatalog.Proofs.Scan.Success

/-!
# How a check ends

When the program exits with 0 after a check of values, and what the two flags do to that. All that
can go wrong before the report is one relation, `Reports`: it says which report is made, if any, and
neither flag occurs in it. What is left of a run is the verdict on the report, where the flags are
told apart: strictness decides on the verdict, and JSON only on how it is told. A check writes
nothing, so all of this is said of what the files show, wherever they are kept.
-/

namespace PropertyCatalog.CommandLine

open Document Text

/-! ## The catalog -/

namespace CatalogOptions

variable {o : CatalogOptions} {files : Files} {c : Catalog}

/-- The declaration files load, the aliases are read, and what is declared makes this catalog. -/
inductive LoadsCatalog (o : CatalogOptions) (files : Files) : Catalog → Prop
  /-- All three succeed. -/
  | intro {documents : List Declaration.Document} {aliases : List (String × SemanticType)}
      {c : Catalog}
      (loads : List.Forall₂ (fun path document ↦ loadDeclarations files path = .ok document)
        o.declarations documents)
      (reads : List.Forall₂ IsAlias o.aliases aliases)
      (builds : (o.policyWith aliases).buildCatalog (documents.flatMap (·.groups)) = .ok c) :
      LoadsCatalog o files c

theorem load_eq_ok_iff : o.load files = .ok c ↔ o.LoadsCatalog files c := by
  simp only [load, loadDeclarationFiles, policy, registry, Outcome.bind_eq_ok_iff,
    Outcome.map_eq_ok_iff, Outcome.mapError_eq_ok_iff, Outcome.mapM_eq_ok_iff, readAlias_eq_ok_iff]
  constructor
  · rintro ⟨_, ⟨documents, hloads, rfl⟩, _, ⟨_, ⟨aliases, hreads, rfl⟩, rfl⟩, hbuilds⟩
    exact .intro hloads hreads hbuilds
  · rintro ⟨hloads, hreads, hbuilds⟩
    exact ⟨_, ⟨_, hloads, rfl⟩, _, ⟨_, ⟨_, hreads, rfl⟩, rfl⟩, hbuilds⟩

end CatalogOptions

/-! ## The report -/

variable {files : Files} {env : Environment} {arguments : List String} {catalog : CatalogOptions}
  {options : ValidateOptions} {r : Report}

/-- Everything that can fail before a check goes well, and this is the report on the values then
bound. -/
inductive Reports (files : Files) (env : Environment) (catalog : CatalogOptions)
    (options : ValidateOptions) : Report → Prop
  /-- The catalog and the values are there. -/
  | intro {c : Catalog} {layers : List BoundValues} {values : BoundValues}
      (loads_catalog : catalog.LoadsCatalog files c)
      (loads_layers : options.LoadsLayers files layers)
      (splits : ∀ entry ∈ options.overrides, '=' ∈ entry.toList)
      (layered : ∀ path value,
        values.get? path = some value ↔ options.LayeredValue layers env c path value) :
      Reports files env catalog options (c.validate values)

/-- A report is made exactly when the program gets to check the values. -/
theorem reports_iff :
    Reports files env catalog options r ↔
      ∃ c, catalog.load files = .ok c ∧
        ∃ sources, options.sources files env c = .ok sources ∧ c.validate sources.merge = r := by
  constructor
  · rintro ⟨hcatalog, hlayers, hsplits, hlayered⟩
    obtain ⟨sources, hsources⟩ := ValidateOptions.exists_sources_iff.mpr ⟨⟨_, hlayers⟩, hsplits⟩
    refine ⟨_, CatalogOptions.load_eq_ok_iff.mpr hcatalog, sources, hsources, ?_⟩
    congr 1
    -- both maps show the layered value of every path, so they are one map
    refine TextMap.ext_get? fun path ↦ Option.ext fun value ↦ ?_
    rw [hlayered, ValidateOptions.get?_merge_of_sources hsources hlayers]
  · rintro ⟨c, hcatalog, sources, hsources, rfl⟩
    obtain ⟨⟨layers, hlayers⟩, hsplits⟩ := ValidateOptions.exists_sources_iff.mp ⟨_, hsources⟩
    exact .intro (CatalogOptions.load_eq_ok_iff.mp hcatalog) hlayers hsplits fun path value ↦
      ValidateOptions.get?_merge_of_sources hsources hlayers

theorem Reports.unique {r' : Report} (h : Reports files env catalog options r)
    (h' : Reports files env catalog options r') : r = r' := by
  obtain ⟨c, hc, sources, hsources, rfl⟩ := reports_iff.mp h
  obtain ⟨c', hc', sources', hsources', rfl⟩ := reports_iff.mp h'
  obtain rfl := Except.ok.inj (hc.symm.trans hc')
  obtain rfl := Except.ok.inj (hsources.symm.trans hsources')
  rfl

theorem reports_flags_iff (strict json : Bool) :
    Reports files env catalog { options with strict, json } r ↔
      Reports files env catalog options r := by
  rw [reports_iff, reports_iff]
  rfl

/-! ## The verdict -/

/-- The report passes: it has no error and, if the check is strict, no warning. -/
structure Passes (strict : Bool) (r : Report) : Prop where
  /-- There is no error. -/
  no_error : ∀ i ∈ r.issues, i.severity ≠ .error
  /-- There is no warning, if warnings count. -/
  no_warning : strict = true → ∀ i ∈ r.issues, i.severity ≠ .warning

theorem failed_eq_false_iff {strict : Bool} :
    (Verdict.mk r strict).failed = false ↔ Passes strict r := by
  have hwarnings : r.warnings.isEmpty = true ↔ ∀ i ∈ r.issues, i.severity ≠ .warning := by
    simp [Report.warnings]
  rw [Verdict.failed, Bool.or_eq_false_iff]
  constructor
  · rintro ⟨hvalid, hstrict⟩
    refine ⟨by simpa [Report.isValid] using hvalid, fun h ↦ hwarnings.mp ?_⟩
    simpa [h] using hstrict
  · intro h
    refine ⟨by simpa [Report.isValid] using h.no_error, ?_⟩
    cases hstrict : strict with
    | false => rfl
    | true => simpa using hwarnings.mpr (h.no_warning hstrict)

/-- What a verdict makes the program exit with does not depend on how it is told. -/
theorem code_ofVerdict (v : Verdict) (json : Bool) :
    (Ending.ofVerdict v json).code = if v.failed then 1 else 0 := by
  rw [Ending.ofVerdict]
  cases json <;> cases h : v.failed <;> simp [Ending.code, Ending.printing]

/-! ### As JSON -/

/-- A verdict in JSON, with its members one below the other. -/
def verdictText (success strict : Bool) (r : Report) : String :=
  "\x7b\n  \"issues\": " ++ Json.writeIndented 1 (.array (r.issues.map (·.tree))) ++
    ",\n  \"strict\": " ++ Json.writeBoolean strict ++
    ",\n  \"success\": " ++ Json.writeBoolean success ++
    ",\n  \"valid\": " ++ Json.writeBoolean r.isValid ++ "\n\x7d\n"

theorem tree_eq_object (v : Verdict) :
    v.tree = .object
      [("issues", .array (v.report.issues.map (·.tree))), ("strict", .boolean v.strict),
       ("success", .boolean !v.failed), ("valid", .boolean v.report.isValid)] := by
  have hempty : (∅ : TextMap Tree).entries = [] := rfl
  have hvalid : ¬"valid" < "success" := by decide
  have hsuccess : "success" < "valid" := by decide
  have hstrict : "strict" < "success" := by decide
  have hissues : "issues" < "strict" := by decide
  rw [Verdict.tree, Tree.ofMembers, TextMap.ofList, TextMap.insertAll]
  simp only [List.foldl_cons, List.foldl_nil, TextMap.insert, hempty, TextMap.insertEntry,
    if_neg hvalid, if_pos hsuccess, if_pos hstrict, if_pos hissues]

theorem writePretty_object (issues : Tree) (strict success valid : Bool) :
    Json.writePretty (.object [("issues", issues), ("strict", .boolean strict),
      ("success", .boolean success), ("valid", .boolean valid)])
      = "\x7b\n  \"issues\": " ++ Json.writeIndented 1 issues ++
        ",\n  \"strict\": " ++ Json.writeBoolean strict ++
        ",\n  \"success\": " ++ Json.writeBoolean success ++
        ",\n  \"valid\": " ++ Json.writeBoolean valid ++ "\n\x7d" := by
  have hinner : Json.lineBreak 1 = "\n  " := by decide +kernel
  have houter : Json.lineBreak 0 = "\n" := by decide +kernel
  have hissues : Json.writeString "issues" = "\"issues\"" := by decide +kernel
  have hstrict : Json.writeString "strict" = "\"strict\"" := by decide +kernel
  have hsuccess : Json.writeString "success" = "\"success\"" := by decide +kernel
  have hvalid : Json.writeString "valid" = "\"valid\"" := by decide +kernel
  have hboolean : ∀ b, Json.writeIndented 1 (.boolean b) = Json.writeBoolean b := by
    intro b
    rw [Json.writeIndented]
  rw [Json.writePretty, Json.writeIndented]
  simp only [Json.indentedMembers, Nat.zero_add, hboolean, hissues, hstrict, hsuccess, hvalid]
  simp only [Json.block, hinner, houter]
  apply String.ext
  simp

theorem json_eq_verdictText (v : Verdict) : v.json = verdictText (!v.failed) v.strict v.report := by
  have hend : "\n\x7d" ++ "\n" = "\n\x7d\n" := by decide +kernel
  unfold Verdict.json verdictText
  rw [tree_eq_object, writePretty_object, ← hend, ← String.append_assoc]

/-! ## The effect -/

theorem effect_of_reports (h : AcceptedAs env arguments catalog options)
    (hr : Reports files env catalog options r) :
    effect files env arguments = .done (.ofVerdict ⟨r, options.strict⟩ options.json) := by
  obtain ⟨c, hc, sources, hsources, rfl⟩ := reports_iff.mp hr
  have heffect := ValidateOptions.effect_validate_eq_ok_iff.mpr ⟨c, hc, sources, hsources, rfl⟩
  rw [effect, h]
  simp only [heffect]

theorem exists_effect_eq_failed (h : AcceptedAs env arguments catalog options)
    (hnone : ∀ r, ¬Reports files env catalog options r) :
    ∃ failure, effect files env arguments = .done (.failed failure) := by
  rw [effect, h]
  cases heffect : (Command.validate catalog options).effect files env with
  | error failure => exact ⟨failure, by simp only [heffect]⟩
  | ok effect =>
    obtain ⟨c, hc, sources, hsources, -⟩ := ValidateOptions.effect_validate_eq_ok_iff.mp heffect
    exact absurd (reports_iff.mpr ⟨c, hc, sources, hsources, rfl⟩) (hnone _)

theorem effect_eq_done (h : AcceptedAs env arguments catalog options) :
    effect files env arguments = .done (effect files env arguments).ending := by
  by_cases hreports : ∃ r, Reports files env catalog options r
  · obtain ⟨r, hr⟩ := hreports
    rw [effect_of_reports h hr]
    rfl
  · obtain ⟨failure, heffect⟩ := exists_effect_eq_failed h fun r hr ↦ hreports ⟨r, hr⟩
    rw [heffect]
    rfl

/-! ## The exit code -/

theorem exitCode_of_reports (h : AcceptedAs env arguments catalog options)
    (hr : Reports files env catalog options r) :
    exitCode files env arguments = if (Verdict.mk r options.strict).failed then 1 else 0 := by
  rw [exitCode, effect_of_reports h hr, Effect.ending, code_ofVerdict]

theorem exitCode_eq_one_of_not_reports (h : AcceptedAs env arguments catalog options)
    (hnone : ∀ r, ¬Reports files env catalog options r) : exitCode files env arguments = 1 := by
  obtain ⟨failure, heffect⟩ := exists_effect_eq_failed h hnone
  rw [exitCode, heffect]
  rfl

theorem exitCode_eq_zero_iff (h : AcceptedAs env arguments catalog options) :
    exitCode files env arguments = 0 ↔
      ∃ r, Reports files env catalog options r ∧ Passes options.strict r := by
  constructor
  · intro hzero
    by_contra hnone
    by_cases hreports : ∃ r, Reports files env catalog options r
    · obtain ⟨r, hr⟩ := hreports
      have hcode := exitCode_of_reports h hr
      rw [hzero] at hcode
      cases hfailed : (Verdict.mk r options.strict).failed with
      | false => exact hnone ⟨r, hr, failed_eq_false_iff.mp hfailed⟩
      | true => simp [hfailed] at hcode
    · have hone := exitCode_eq_one_of_not_reports h fun r hr ↦ hreports ⟨r, hr⟩
      omega
  · rintro ⟨r, hr, hpasses⟩
    rw [exitCode_of_reports h hr, failed_eq_false_iff.mpr hpasses, if_neg Bool.false_ne_true]

theorem exitCode_eq_zero_or_one (files : Files) (h : AcceptedAs env arguments catalog options) :
    exitCode files env arguments = 0 ∨ exitCode files env arguments = 1 := by
  by_cases hreports : ∃ r, Reports files env catalog options r
  · obtain ⟨r, hr⟩ := hreports
    rw [exitCode_of_reports h hr]
    cases (Verdict.mk r options.strict).failed <;> simp
  · exact .inr (exitCode_eq_one_of_not_reports h fun r hr ↦ hreports ⟨r, hr⟩)

/-! ## Two runs -/

section Flags

variable {arguments' : List String}

theorem exitCode_congr_json {json : Bool} (h : AcceptedAs env arguments catalog options)
    (h' : AcceptedAs env arguments' catalog { options with json }) :
    exitCode files env arguments' = exitCode files env arguments := by
  have hzero : exitCode files env arguments' = 0 ↔ exitCode files env arguments = 0 := by
    rw [exitCode_eq_zero_iff h, exitCode_eq_zero_iff h']
    exact exists_congr fun r ↦ and_congr_left' (reports_flags_iff options.strict json)
  have hone := exitCode_eq_zero_or_one files h
  have hone' := exitCode_eq_zero_or_one files h'
  omega

/-- A strict check exits with 0 only if the check that is not strict does. -/
theorem exitCode_eq_zero_of_strict (files : Files)
    (h : AcceptedAs env arguments catalog options) (hstrict : options.strict = false)
    (h' : AcceptedAs env arguments' catalog { options with strict := true })
    (hzero : exitCode files env arguments' = 0) : exitCode files env arguments = 0 := by
  obtain ⟨r, hr, hpasses⟩ := (exitCode_eq_zero_iff h').mp hzero
  have hr' := (reports_flags_iff true options.json).mp hr
  refine (exitCode_eq_zero_iff h).mpr ⟨r, hr', hpasses.no_error, fun htrue ↦ ?_⟩
  exact absurd (hstrict.symm.trans htrue) Bool.false_ne_true

/-- Strictness matters exactly where there are warnings and no error. -/
theorem exitCode_strict_ne_iff (h : AcceptedAs env arguments catalog options)
    (hstrict : options.strict = false)
    (h' : AcceptedAs env arguments' catalog { options with strict := true }) :
    exitCode files env arguments' ≠ exitCode files env arguments ↔
      ∃ r, Reports files env catalog options r ∧ (∀ i ∈ r.issues, i.severity ≠ .error) ∧
        ∃ i ∈ r.issues, i.severity = .warning := by
  -- both codes are 0 or 1, and only the strict check can be the one that exits with 1
  have hle := exitCode_eq_zero_of_strict files h hstrict h'
  have hone := exitCode_eq_zero_or_one files h
  have hone' := exitCode_eq_zero_or_one files h'
  constructor
  · intro hne
    have hzero : exitCode files env arguments = 0 := by omega
    obtain ⟨r, hr, hpasses⟩ := (exitCode_eq_zero_iff h).mp hzero
    refine ⟨r, hr, hpasses.no_error, ?_⟩
    by_contra hnone
    have hpasses' : Passes true r :=
      ⟨hpasses.no_error, fun _ i hi hwarning ↦ hnone ⟨i, hi, hwarning⟩⟩
    have hzero' := (exitCode_eq_zero_iff h').mpr
      ⟨r, (reports_flags_iff true options.json).mpr hr, hpasses'⟩
    exact hne (hzero'.trans hzero.symm)
  · rintro ⟨r, hr, herror, i, hi, hwarning⟩ heq
    have hzero : exitCode files env arguments = 0 := by
      refine (exitCode_eq_zero_iff h).mpr ⟨r, hr, herror, fun htrue ↦ ?_⟩
      exact absurd (hstrict.symm.trans htrue) Bool.false_ne_true
    obtain ⟨r', hr', hpasses⟩ := (exitCode_eq_zero_iff h').mp (heq.trans hzero)
    obtain rfl := hr.unique ((reports_flags_iff true options.json).mp hr')
    exact hpasses.no_warning rfl i hi hwarning

/-- A report that is told as JSON is printed with whether the program exits with 0, and with what
was found; the latter is the same whether or not the check is strict. -/
theorem output_of_reports {strict : Bool} (hjson : options.json = true)
    (hr : Reports files env catalog options r)
    (h' : AcceptedAs env arguments' catalog { options with strict }) :
    (effect files env arguments').ending.output
      = verdictText (exitCode files env arguments' = 0) strict r := by
  have hr' : Reports files env catalog { options with strict } r :=
    (reports_flags_iff strict options.json).mpr hr
  have hsuccess : decide (exitCode files env arguments' = 0) = !(Verdict.mk r strict).failed := by
    rw [exitCode_of_reports h' hr']
    cases (Verdict.mk r strict).failed <;> rfl
  rw [effect_of_reports h' hr', hsuccess, hjson]
  exact json_eq_verdictText ⟨r, strict⟩

end Flags

/-! ## All together -/

/-- How a run that checks values ends, and what the flags `--json` and `--strict` do to it. A flag
can be added to arguments that do not have it; wherever it is added and accepted, the check is the
same but for the flag; and what then changes is said for all arguments that ask for such a check. -/
structure EndsByReport (files : Files) (env : Environment) (arguments : List String)
    (catalog : CatalogOptions) (options : ValidateOptions) : Prop where
  /-- The program exits with 0 exactly when a report is made and passes. -/
  exitCode_eq_zero_iff : exitCode files env arguments = 0 ↔
    ∃ r, Reports files env catalog options r ∧ Passes options.strict r
  /-- Otherwise it exits with 1. -/
  exitCode_eq_one : exitCode files env arguments ≠ 0 → exitCode files env arguments = 1
  /-- The outcome can be asked for as JSON. -/
  accepts_json : options.json = false →
    ∃ arguments', AddsFlag "--json" arguments arguments' ∧
      AcceptedAs env arguments' catalog { options with json := true }
  /-- To add `--json` asks for the same check, told as JSON. -/
  adds_json : ∀ arguments' catalog' options', AddsFlag "--json" arguments arguments' →
    AcceptedAs env arguments' catalog' options' →
      catalog' = catalog ∧ options' = { options with json := true }
  /-- JSON never changes the exit code. -/
  exitCode_json : ∀ arguments' json, AcceptedAs env arguments' catalog { options with json } →
    exitCode files env arguments' = exitCode files env arguments
  /-- The check can be made strict. -/
  accepts_strict : options.strict = false →
    ∃ arguments', AddsFlag "--strict" arguments arguments' ∧
      AcceptedAs env arguments' catalog { options with strict := true }
  /-- To add `--strict` asks for the same check, made strict. -/
  adds_strict : ∀ arguments' catalog' options', AddsFlag "--strict" arguments arguments' →
    AcceptedAs env arguments' catalog' options' →
      catalog' = catalog ∧ options' = { options with strict := true }
  /-- Strictness changes the exit code only from 0 to 1, -/
  exitCode_strict : options.strict = false → ∀ arguments',
    AcceptedAs env arguments' catalog { options with strict := true } →
      exitCode files env arguments' ≠ exitCode files env arguments →
        exitCode files env arguments = 0 ∧ exitCode files env arguments' = 1
  /-- and exactly when the report has no error but some warning. -/
  exitCode_strict_iff : options.strict = false → ∀ arguments',
    AcceptedAs env arguments' catalog { options with strict := true } →
      (exitCode files env arguments' ≠ exitCode files env arguments ↔
        ∃ r, Reports files env catalog options r ∧ (∀ i ∈ r.issues, i.severity ≠ .error) ∧
          ∃ i ∈ r.issues, i.severity = .warning)
  /-- In JSON, `success` is whether the exit code is 0, and `valid` and `issues` are those of the
  report, whether or not the check is strict. -/
  output_json : options.json = true → ∀ r, Reports files env catalog options r →
    ∀ arguments' strict, AcceptedAs env arguments' catalog { options with strict } →
      (effect files env arguments').ending.output
        = verdictText (exitCode files env arguments' = 0) strict r
  /-- Nothing is printed without a report. -/
  reports_of_output : (effect files env arguments).ending.output ≠ "" →
    ∃ r, Reports files env catalog options r
  /-- The run ends with what the files show, and writes nothing. -/
  effect_eq : effect files env arguments = .done (effect files env arguments).ending
  /-- So on every file system that shows these files it ends in this way and leaves it as it was. -/
  run_eq : ∀ t : FileTree, t.files = files →
    run t env arguments = ⟨(effect files env arguments).ending, t⟩

/-- **The outcome of a check.** Whatever arguments ask for a check, and whatever the files and the
environment hold, the run ends as the report says. -/
theorem endsByReport_of_acceptedAs (h : AcceptedAs env arguments catalog options) :
    EndsByReport files env arguments catalog options := by
  have hone := CommandLine.exitCode_eq_zero_or_one files h
  constructor
  case exitCode_eq_zero_iff => exact CommandLine.exitCode_eq_zero_iff h
  case exitCode_eq_one => exact fun hne ↦ hone.resolve_left hne
  case accepts_json => exact fun hjson ↦ h.exists_json hjson
  case adds_json => exact fun _ _ _ hadds h' ↦ isCheckFlag_json.eq_of_addsFlag h hadds h'
  case exitCode_json => exact fun _ _ h' ↦ exitCode_congr_json h h'
  case accepts_strict => exact fun hstrict ↦ h.exists_strict hstrict
  case adds_strict => exact fun _ _ _ hadds h' ↦ isCheckFlag_strict.eq_of_addsFlag h hadds h'
  case exitCode_strict =>
    intro hstrict arguments' h' hne
    have hone' := CommandLine.exitCode_eq_zero_or_one files h'
    have hle := exitCode_eq_zero_of_strict files h hstrict h'
    omega
  case exitCode_strict_iff => exact fun hstrict _ h' ↦ exitCode_strict_ne_iff h hstrict h'
  case output_json => exact fun hjson r hr _ _ h' ↦ output_of_reports hjson hr h'
  case reports_of_output =>
    intro houtput
    by_contra hnone
    obtain ⟨failure, heffect⟩ := exists_effect_eq_failed h fun r hr ↦ hnone ⟨r, hr⟩
    rw [heffect] at houtput
    exact houtput rfl
  case effect_eq => exact effect_eq_done h
  case run_eq =>
    rintro t rfl
    rw [run, effect_eq_done h]
    rfl

/-- A property that is bound and a path that nobody knows: a warning and no error. -/
theorem endsByReport_of_unknown_path :
    let t : FileTree := FileTree.empty.put "/tmp/d.yaml"
      (.file (some "groups:\n- prefix: x\n  fields:\n  - name: one\n    type: u8\n"))
    let arguments : List String :=
      ["validate", "-d", "/tmp/d.yaml", "--set", "x.one=1", "--set", "y=2"]
    let catalog : CatalogOptions := ⟨["/tmp/d.yaml"], false, []⟩
    let options : ValidateOptions := ⟨[], false, none, ["x.one=1", "y=2"], false, false⟩
    AcceptedAs ∅ arguments catalog options ∧ EndsByReport t.files ∅ arguments catalog options ∧
      exitCode t.files ∅ arguments = 0 ∧ exitCode t.files ∅ (arguments ++ ["--json"]) = 0 ∧
        exitCode t.files ∅ (arguments ++ ["--strict"]) = 1 := by
  intro t arguments catalog options
  have haccepted : AcceptedAs ∅ arguments catalog options := by
    unfold AcceptedAs
    decide +kernel
  have hjson : AcceptedAs ∅ (arguments ++ ["--json"]) catalog { options with json := true } := by
    unfold AcceptedAs
    decide +kernel
  have hstrict :
      AcceptedAs ∅ (arguments ++ ["--strict"]) catalog { options with strict := true } := by
    unfold AcceptedAs
    decide +kernel
  have hends : EndsByReport t.files ∅ arguments catalog options :=
    endsByReport_of_acceptedAs haccepted
  let declared : Declaration.Group :=
    { root := "x", fields := [{ name := "one", declaredType := "u8" }] }
  let group : PropertyGroup := ⟨"x", none, [⟨"x.one", .integer, none, true, "x", none, [], none⟩]⟩
  have hscan : ScanPolicy.scanGroup (catalog.policyWith []) 0 declared = .ok group := by
    decide +kernel
  let c : Catalog := ⟨[group.resolveLabels], .ofList [("x.one", ⟨0, 0⟩)]⟩
  have hbuild : (catalog.policyWith []).buildCatalog [declared] = .ok c :=
    ScanPolicy.buildCatalog_singleton hscan (by decide)
  have hdocument : loadDeclarations t.files "/tmp/d.yaml" = .ok ⟨[declared]⟩ := by decide +kernel
  have hcatalog : catalog.load t.files = .ok c :=
    CatalogOptions.load_eq_ok_iff.mpr (.intro (.cons hdocument .nil) .nil hbuild)
  let sources : Sources := ⟨∅, ∅, some (.ofList [("x.one", .text "1"), ("y", .text "2")])⟩
  have hsources : options.sources t.files ∅ c = .ok sources :=
    ValidateOptions.sources_eq_ok_iff.mpr ⟨rfl, by decide +kernel, rfl⟩
  let unknown : Issue := ⟨.unknownProperty, "y", "y is not a known configuration property"⟩
  have hreports : Reports t.files ∅ catalog options (c.validate sources.merge) :=
    reports_iff.mpr ⟨c, hcatalog, sources, hsources, rfl⟩
  have herror : ∀ i ∈ (c.validate sources.merge).issues, i.severity ≠ .error := by
    intro i hi
    replace hi := List.mem_mergeSort.mp hi
    revert i
    decide +kernel
  have hwarning : ∃ i ∈ (c.validate sources.merge).issues, i.severity = .warning :=
    ⟨unknown, List.mem_mergeSort.mpr (by decide +kernel), rfl⟩
  have hzero : exitCode t.files ∅ arguments = 0 :=
    hends.exitCode_eq_zero_iff.mpr ⟨_, hreports, herror, nofun⟩
  have hzero' := (hends.exitCode_json _ true hjson).trans hzero
  have hne := (hends.exitCode_strict_iff rfl _ hstrict).mpr ⟨_, hreports, herror, hwarning⟩
  exact ⟨haccepted, hends, hzero, hzero', (hends.exitCode_strict rfl _ hstrict hne).2⟩

end PropertyCatalog.CommandLine
