import PropertyCatalog.Proofs.CommandLine.ExitCode
import PropertyCatalog.Proofs.CommandLine.Output
import PropertyCatalog.Proofs.Files.Writing

/-!
# Runs that render a catalog

Two commands turn a catalog into a text, and either prints the text or writes it to a file
(`Rendering`). Whatever can fail comes before that, apart from the writing itself, so a run that
fails leaves the files as they were (`FailsAndKeeps`). A run whose arguments name an output file is
compared with the one without it: what the one prints, the other writes, be it to a file or to a
device (`Redirects`).
-/

namespace PropertyCatalog.CommandLine

/-- What is rendered of a catalog. -/
inductive Rendering where
  /-- An example file. -/
  | exampleFile
  /-- Documentation in some form. -/
  | docs (format : DocsFormat)
deriving DecidableEq

namespace Rendering

def name : Rendering → String
  | exampleFile => "example"
  | docs _ => "docs"

def forms : Rendering → List OptionForm
  | exampleFile => exampleForms
  | docs _ => docsForms

/-- The command on a catalog, with the file to write, if there is one. -/
def command (catalog : CatalogOptions) (output : Option String) : Rendering → Command
  | exampleFile => .exampleFile catalog output
  | docs format => .docs catalog format output

def render (c : Catalog) : Rendering → String
  | exampleFile => c.renderExample
  | docs format => format.render c

/-- The options mean this rendering. -/
def IsMeant (given : List Given) : Rendering → Prop
  | exampleFile => True
  | docs format => DocsFormat.ofGiven given = format

/-- The arguments are accepted, and they ask for this rendering. -/
def AskedFor (r : Rendering) (env : Environment) (arguments : List String)
    (catalog : CatalogOptions) (output : Option String) : Prop :=
  Request.ofArguments? env arguments = some (.command (r.command catalog output))

variable {r : Rendering} {t t' : FileTree} {env : Environment} {arguments arguments' : List String}
  {catalog : CatalogOptions} {output : Option String} {file name : String} {rest : List String}
  {c : Catalog} {failure : Failure}

/-! ## Arguments -/

theorem knowsOutput_forms (r : Rendering) : KnowsOutput r.forms := by
  cases r with
  | exampleFile => exact knowsOutput_exampleForms
  | docs => exact knowsOutput_docsForms

theorem ofArguments_eq_command_iff :
    Command.ofArguments env name rest = .ok (r.command catalog output) ↔
      name = r.name ∧ ∃ given, Reads r.forms [] rest given ∧
        CatalogOptions.ofGiven given = .ok catalog ∧ r.IsMeant given ∧
        operand? given "output" = output := by
  cases r with
  | exampleFile =>
    unfold Command.ofArguments
    split
    case h_5 hexample _ _ => exact iff_of_false nofun fun h ↦ hexample h.1
    all_goals simp [command, Rendering.name, forms, IsMeant, Outcome.bind_eq_ok_iff,
      readOptions_eq_ok_iff]
  | docs format =>
    unfold Command.ofArguments
    split
    case h_5 hdocs _ => exact iff_of_false nofun fun h ↦ hdocs h.1
    all_goals simp [command, Rendering.name, forms, IsMeant, Outcome.bind_eq_ok_iff,
      readOptions_eq_ok_iff]

theorem askedFor_iff :
    r.AskedFor env arguments catalog output ↔
      ∃ rest given, arguments = r.name :: rest ∧ Reads r.forms [] rest given ∧
        CatalogOptions.ofGiven given = .ok catalog ∧ r.IsMeant given ∧
        operand? given "output" = output := by
  simp only [AskedFor, ofArguments?_eq_command_iff, ofArguments_eq_command_iff]
  constructor
  · rintro ⟨_, rest, rfl, -, rfl, given, hgiven⟩
    exact ⟨rest, given, rfl, hgiven⟩
  · rintro ⟨rest, given, rfl, hgiven⟩
    refine ⟨_, rest, rfl, ?_, rfl, given, hgiven⟩
    cases r <;> exact List.contains_iff_mem.mp rfl

/-! ## Without the output file -/

theorem IsMeant.of_insert {front back : List Given} {g : Given} (h : g.name = "output")
    (hmeant : r.IsMeant (front ++ g :: back)) : r.IsMeant (front ++ back) := by
  cases r with
  | exampleFile => exact hmeant
  | docs format =>
    have hne : g.name ≠ "format" := by
      rw [h]
      decide
    rw [IsMeant, DocsFormat.ofGiven, operand?, operands_insert_of_ne hne] at hmeant
    exact hmeant

/-- An option that was not given took nothing, and one that was given took what is given. -/
theorem operand?_insert {front back : List Given} (hnone : ∀ g ∈ front ++ back, g.name ≠ name)
    (operand : String) :
    operand? (front ++ back) name = none ∧
      operand? (front ++ ⟨name, operand⟩ :: back) name = some operand := by
  have hnil : ∀ given : List Given, (∀ g ∈ given, g.name ≠ name) → operands given name = [] := by
    intro given h
    rw [operands, List.map_eq_nil_iff, List.filter_eq_nil_iff]
    exact fun g hg ↦ by simpa using h g hg
  have hfront : operands front name = [] :=
    hnil front fun g hg ↦ hnone g (List.mem_append_left back hg)
  constructor
  · rw [operand?, hnil _ hnone, List.head?_nil]
  · rw [operands, List.map_eq_nil_iff] at hfront
    simp [operand?, operands, List.filter_append, hfront]

/-- Arguments without the output file ask for the same rendering, to be printed. -/
theorem AskedFor.of_dropsOutput (h : r.AskedFor env arguments catalog output)
    (hdrops : DropsOutput file arguments arguments') :
    output = some file ∧ r.AskedFor env arguments' catalog none := by
  obtain ⟨rest, given, rfl, hreads, hcatalog, hmeant, houtput⟩ := askedFor_iff.mp h
  obtain ⟨left, tokens, right, hspells, hleft, rfl⟩ := hdrops
  cases left with
  | nil =>
    -- the name of the command is no option
    obtain ⟨argument, more, rfl, hoption⟩ := hspells.exists_cons
    cases hleft
    have hexample : Argument.ofText "example" = .plain "example" := by decide +kernel
    have hdocs : Argument.ofText "docs" = .plain "docs" := by decide +kernel
    cases r with
    | exampleFile => exact absurd hexample (hoption _)
    | docs => exact absurd hdocs (hoption _)
  | cons a left =>
    cases hleft
    obtain ⟨front, back, rfl, hreads', hnone⟩ := hreads.exists_drop r.knowsOutput_forms hspells
    obtain ⟨houtput', hfile⟩ := operand?_insert hnone file
    have hcatalog' : CatalogOptions.ofGiven (front ++ ⟨"output", file⟩ :: back)
        = CatalogOptions.ofGiven (front ++ back) := CatalogOptions.ofGiven_insert (by simp)
    rw [hcatalog'] at hcatalog
    refine ⟨houtput.symm.trans hfile, askedFor_iff.mpr ?_⟩
    exact ⟨_, _, rfl, hreads', hcatalog, hmeant.of_insert rfl, houtput'⟩

theorem AskedFor.exists_dropsOutput (h : r.AskedFor env arguments catalog (some file)) :
    ∃ arguments', DropsOutput file arguments arguments' := by
  obtain ⟨rest, given, rfl, hreads, -, -, houtput⟩ := askedFor_iff.mp h
  have hmem : ⟨"output", file⟩ ∈ given := by
    have hoperand := List.mem_of_head? houtput
    obtain ⟨g, hg, hfile⟩ := List.mem_map.mp hoperand
    obtain ⟨hgiven, hname⟩ := List.mem_filter.mp hg
    rw [← of_decide_eq_true hname, ← hfile]
    exact hgiven
  obtain ⟨left, tokens, right, hspells, rfl⟩ := hreads.exists_spellsOutput r.knowsOutput_forms hmem
  exact ⟨_, r.name :: left, tokens, right, hspells, by simp, rfl⟩

/-! ## Effects -/

theorem effect_of_load_error {files : Files} (h : r.AskedFor env arguments catalog output)
    (hload : catalog.load files = .error failure) :
    effect files env arguments = .done (.failed failure) := by
  have heffect : (r.command catalog output).effect files env = .error failure := by
    cases r <;> exact Outcome.bind_eq_error_iff.mpr (.inl hload)
  rw [effect, h]
  simp only [heffect]

theorem effect_of_load {files : Files} (h : r.AskedFor env arguments catalog output)
    (hload : catalog.load files = .ok c) :
    effect files env arguments = .emit (r.render c) output := by
  have heffect : (r.command catalog output).effect files env
      = .ok (.emit (r.render c) output) := by
    cases r <;> exact Outcome.bind_eq_ok_iff.mpr ⟨c, hload, rfl⟩
  rw [effect, h]
  simp only [heffect]

/-! ## Runs -/

/-- A run fails with nothing printed, and leaves the file system as it was. -/
structure FailsAndKeeps (t : FileTree) (after : Run) : Prop where
  /-- The program exits with 1. -/
  code_eq : after.ending.code = 1
  /-- Nothing is printed. -/
  output_eq : after.ending.output = ""
  /-- No file has been made or changed. -/
  files_eq : after.files = t

/-- What a run leaves that writes a text to an output file instead of printing it. -/
structure Redirects (t : FileTree) (file text : String) (after : Run) : Prop where
  /-- If the output file is a file, the program exits with 0 and prints nothing, the file holds the
  text, and no other file has been made or changed. -/
  of_file : t.IsFilePath file →
    after.ending.code = 0 ∧ after.ending.output = "" ∧ after.files.held? file = some text ∧
      t.IsWritten file text after.files
  /-- If it is a device, the program exits with 0, the device has got the text, which is printed if
  the device prints, and no file has been made or changed. -/
  of_device : ∀ prints, t.IsDevicePath file prints →
    after.ending.code = 0 ∧ after.ending.output = (if prints then text else "") ∧ after.files = t
  /-- If it is neither, the text cannot be written. -/
  of_neither : ¬t.IsFilePath file → (∀ prints, ¬t.IsDevicePath file prints) →
    FailsAndKeeps t after

theorem redirects_run_write (t : FileTree) (file text : String) :
    Redirects t file text (Effect.run t (.write file text)) := by
  constructor
  case of_file =>
    intro hfile
    obtain ⟨t', hwrite, hwritten⟩ := hfile.exists_write text
    obtain ⟨-, names, hresolve, -⟩ := hfile
    rw [Effect.run, hwrite]
    exact ⟨rfl, rfl, hwritten.held?_of_shares file ⟨names, names, hresolve, hresolve, .inl rfl⟩,
      hwritten⟩
  case of_device =>
    intro prints hdevice
    rw [Effect.run, hdevice.write_eq text]
    exact ⟨rfl, rfl, rfl⟩
  case of_neither =>
    intro hfile hdevice
    obtain ⟨fault, hwrite⟩ := FileTree.exists_write_eq_error hfile hdevice text
    rw [Effect.run, hwrite]
    exact ⟨rfl, rfl, rfl⟩

/-- **Runs that render touch a file only when nothing has failed.** If the catalog does not load,
for whatever reason, the program exits with 1, prints nothing and leaves every file as it was. If it
loads and the arguments name an output file, what is printed by the same arguments without it is
written there. -/
theorem run_exact (t : FileTree) (h : r.AskedFor env arguments catalog output) :
    (∀ failure, catalog.load t.files = .error failure → FailsAndKeeps t (run t env arguments)) ∧
    ∀ file, output = some file →
      (∃ arguments', DropsOutput file arguments arguments') ∧
      ∀ arguments', DropsOutput file arguments arguments' →
        r.AskedFor env arguments' catalog none ∧
        ∀ c, catalog.load t.files = .ok c →
          Redirects t file (run t env arguments').ending.output (run t env arguments) := by
  constructor
  · intro failure hload
    rw [run, effect_of_load_error h hload]
    exact ⟨rfl, rfl, rfl⟩
  · rintro file rfl
    refine ⟨h.exists_dropsOutput, fun arguments' hdrops ↦ ?_⟩
    obtain ⟨-, h'⟩ := h.of_dropsOutput hdrops
    refine ⟨h', fun c hload ↦ ?_⟩
    have hprinted : (run t env arguments').ending.output = r.render c := by
      rw [run, effect_of_load h' hload]
      rfl
    rw [hprinted, run, effect_of_load h hload]
    exact redirects_run_write t file (r.render c)

/-- An example file behind a link, that takes the place of another text in a file with two names,
and on a device that prints; and no example file where the declarations are missing. -/
theorem run_exact_behind_link :
    let t := ((FileTree.empty.put "/srv/old" (.file (some "before"))).place
      [['s', 'r', 'v'], ['t', 'w', 'i', 'n']] (.file 0)).place
        [['w', 'o', 'r', 'k'], ['o', 'u', 't']] (.link "../srv")
    let t' := (t.place [['t', 't', 'y']] (.device none true)).put "/etc/d.yaml"
      (.file (some "groups:\n- prefix: x\n  fields:\n  - name: one\n    type: u8\n"))
    let arguments := ["example", "-d", "/etc/d.yaml", "-o", "out/./old"]
    let after := run t' ∅ arguments
    let printed := (run t' ∅ ["example", "-d", "/etc/d.yaml"]).ending.output
    (run t ∅ arguments).ending.code = 1 ∧ (run t ∅ arguments).files = t ∧
      after.ending.code = 0 ∧ after.ending.output = "" ∧ printed = "# x\nx.one=0\n" ∧
      after.files.files "out/./old" = .text printed ∧
      after.files.files "/srv/twin" = .text printed ∧
      after.files.files "/etc/d.yaml" = t'.files "/etc/d.yaml" ∧
      (run t' ∅ ["example", "-o", "/tty", "-d", "/etc/d.yaml"]).ending.output = printed := by
  intro t t' arguments after printed
  let catalog : CatalogOptions := ⟨["/etc/d.yaml"], false, []⟩
  let group : PropertyGroup :=
    ⟨"x", none, [⟨"x.one", .integer, none, true, "x", none, [], none⟩]⟩
  let c : Catalog := ⟨[group.resolveLabels], .ofList [("x.one", ⟨0, 0⟩)]⟩
  let declared : Declaration.Group :=
    { root := "x", fields := [{ name := "one", declaredType := "u8" }] }
  have hscan : ScanPolicy.scanGroup (catalog.policyWith []) 0 declared = .ok group := by
    decide +kernel
  have hbuild : (catalog.policyWith []).buildCatalog [declared] = .ok c :=
    ScanPolicy.buildCatalog_singleton hscan (by decide)
  have hdocument : loadDeclarations t'.files "/etc/d.yaml" = .ok ⟨[declared]⟩ := by decide +kernel
  have hload : catalog.load t'.files = .ok c :=
    CatalogOptions.load_eq_ok_iff.mpr (.intro (.cons hdocument .nil) .nil hbuild)
  have hmissing :
      loadDeclarationFiles t.files ["/etc/d.yaml"] = .error (.fileNotFound "/etc/d.yaml") := by
    decide +kernel
  have hfails : catalog.load t.files = .error (.load (.fileNotFound "/etc/d.yaml")) := by
    rw [CatalogOptions.load, hmissing]
    rfl
  have hasked : exampleFile.AskedFor ∅ arguments catalog (some "out/./old") := by
    unfold AskedFor
    decide +kernel
  have hdrops : DropsOutput "out/./old" arguments ["example", "-d", "/etc/d.yaml"] :=
    ⟨["example", "-d", "/etc/d.yaml"], ["-o", "out/./old"], [], .short, rfl, rfl⟩
  obtain ⟨hcode, -, hfiles⟩ := (run_exact t hasked).1 _ hfails
  obtain ⟨hprints, hredirects⟩ := ((run_exact t' hasked).2 _ rfl).2 _ hdrops
  -- the file behind the link has the number 0 and stands at two places
  let old : List (List Char) := [['s', 'r', 'v'], ['o', 'l', 'd']]
  let twin : List (List Char) := [['s', 'r', 'v'], ['t', 'w', 'i', 'n']]
  have hold : t'.resolve "out/./old" = .ok old := by decide +kernel
  have htwin : t'.resolve "/srv/twin" = .ok twin := by decide +kernel
  have hentry : t'.nodeAt? old = some (.file 0) := by decide +kernel
  have hentry' : t'.nodeAt? twin = some (.file 0) := by decide +kernel
  have hslash : FileTree.endsOpen "out/./old" = false := by decide +kernel
  have hfile : t'.IsFilePath "out/./old" := ⟨hslash, old, hold, rfl, .inr ⟨0, hentry⟩⟩
  obtain ⟨hcode', houtput, -, hwritten⟩ := (hredirects c hload).of_file hfile
  let declarations : List (List Char) := [['e', 't', 'c'], "d.yaml".toList]
  have hresolve : t'.resolve "/etc/d.yaml" = .ok declarations := by decide +kernel
  have hentry'' : t'.nodeAt? declarations = some (.file 1) := by decide +kernel
  have hother : ¬t'.Shares "out/./old" "/etc/d.yaml" :=
    FileTree.not_shares_of_ne hold hentry hresolve hentry'' (by decide)
  have hprinted : printed = c.renderExample := by
    have heffect := effect_of_load hprints hload
    exact congrArg (·.ending.output) (congrArg (Effect.run t') heffect)
  let arguments' := ["example", "-o", "/tty", "-d", "/etc/d.yaml"]
  have hasked' : exampleFile.AskedFor ∅ arguments' catalog (some "/tty") := by
    unfold AskedFor
    decide +kernel
  have hdrops' : DropsOutput "/tty" arguments' ["example", "-d", "/etc/d.yaml"] :=
    ⟨["example"], ["-o", "/tty"], ["-d", "/etc/d.yaml"], .short, rfl, rfl⟩
  have hdevice : t'.IsDevicePath "/tty" true :=
    ⟨by decide +kernel, [['t', 't', 'y']], none, by decide +kernel, rfl, by decide +kernel⟩
  obtain ⟨-, hredirects'⟩ := ((run_exact t' hasked').2 _ rfl).2 _ hdrops'
  obtain ⟨-, hprints', -⟩ := (hredirects' c hload).of_device true hdevice
  refine ⟨hcode, hfiles, hcode', houtput, ?_, ?_, ?_, ?_, ?_⟩
  · rw [hprinted]
    decide +kernel
  · exact hwritten.files_eq_text ⟨old, old, hold, hold, .inl rfl⟩ hold rfl
  · exact hwritten.files_eq_text ⟨old, twin, hold, htwin, .inr ⟨0, hentry, hentry'⟩⟩ htwin rfl
  · exact hwritten.files_of_not_shares _ hother
  · exact hprints'

end Rendering

end PropertyCatalog.CommandLine
