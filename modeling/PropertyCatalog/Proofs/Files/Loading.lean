import PropertyCatalog.Proofs.Declaration.Problems
import PropertyCatalog.Proofs.Files.Extension

/-!
# Loading declaration files

What comes of loading declaration files, for every file system and all paths. A path either loads or
has one fault, and `LoadFault` says which: each reason presupposes that those before it do not hold,
so the constructors stand in the order in which reasons are decided. The two faults of the extension
presuppose nothing about the files, and they are the only ones that are the same in every file
system (`concernsExtension_iff`).

Several paths load if each of them does. Otherwise the first path that does not decides alone, so
nothing is known of those behind it, and nothing is kept of those before it.
-/

namespace PropertyCatalog

open Declaration Text

variable {files : Files} {path text : String} {d : Document} {e : LoadError}

/-! ## Reading -/

namespace Files

theorem read_eq_ok_iff : files.read path = .ok text ↔ files path = .text text := by
  rw [read]
  cases files path <;> simp

theorem read_eq_error_iff :
    files.read path = .error e ↔
      files path = .missing ∧ e = .fileNotFound path ∨
        ∃ reason, files path = .unreadable reason ∧ e = .unreadable path reason := by
  rw [read]
  cases files path <;> simp [eq_comm]

end Files

/-! ## One path -/

/-- The declarations at a path load: it has the extension of a declaration file, a text stands
there, the text is read, and the document has no problem. -/
inductive LoadsDeclarations (files : Files) (path : String) : Document → Prop
  /-- All of this holds. -/
  | intro {format : FileFormat} {text : String} {d : Document}
      (names : NamesDeclarations path format) (holds : files path = .text text)
      (reads : format.readDocument? text = some d) (sound : ∀ p, ¬d.HasProblem p) :
      LoadsDeclarations files path d

/-- Why the declarations at a path do not load. -/
inductive LoadFault (files : Files) (path : String) : LoadError → Prop
  /-- The path has no extension. -/
  | noExtension (none : ∀ extension, ¬PathName.HasExtension path extension) :
      LoadFault files path (.noExtension path)
  /-- The extension is none of declaration files. -/
  | unsupported {extension : String} (extended : PathName.HasExtension path extension)
      (unknown : asciiLower extension ∉ declarationExtensions.map (·.1)) :
      LoadFault files path (.unsupportedFormat (asciiLower extension))
  /-- Nothing stands at the path. -/
  | missing {format : FileFormat} (names : NamesDeclarations path format)
      (missing : files path = .missing) : LoadFault files path (.fileNotFound path)
  /-- What stands there is not read as text. -/
  | unreadable {format : FileFormat} {reason : String} (names : NamesDeclarations path format)
      (unreadable : files path = .unreadable reason) :
      LoadFault files path (.unreadable path reason)
  /-- The text does not follow its format. -/
  | parse {format : FileFormat} {text : String} (names : NamesDeclarations path format)
      (holds : files path = .text text) (unread : format.readDocument? text = none) :
      LoadFault files path (.parse format.name path)
  /-- The document has a problem. -/
  | invalid {format : FileFormat} {text : String} {d : Document} {p : Problem}
      (names : NamesDeclarations path format) (holds : files path = .text text)
      (reads : format.readDocument? text = some d) (problem : d.HasProblem p) :
      LoadFault files path (.invalidDocument path)

theorem loadDeclarations_eq_ok_iff_loads :
    loadDeclarations files path = .ok d ↔ LoadsDeclarations files path d := by
  simp only [loadDeclarations_eq_ok_iff, declarationFormat_eq_ok_iff, Files.read_eq_ok_iff,
    Document.isSound_iff]
  constructor
  · rintro ⟨format, text, hnames, hholds, hreads, hsound⟩
    exact .intro hnames hholds hreads hsound
  · rintro ⟨hnames, hholds, hreads, hsound⟩
    exact ⟨_, _, hnames, hholds, hreads, hsound⟩

theorem loadDeclarations_eq_error_iff :
    loadDeclarations files path = .error e ↔ LoadFault files path e := by
  simp only [loadDeclarations, Outcome.bind_eq_error_iff, declarationFormat_eq_error_iff,
    declarationFormat_eq_ok_iff, Files.read_eq_error_iff, Files.read_eq_ok_iff]
  constructor
  · rintro ((⟨hnone, rfl⟩ | ⟨extension, hextended, hunknown, rfl⟩) |
      ⟨format, hnames, (⟨hmissing, rfl⟩ | ⟨reason, hunreadable, rfl⟩) | ⟨text, hholds, h⟩⟩)
    · exact .noExtension hnone
    · exact .unsupported hextended hunknown
    · exact .missing hnames hmissing
    · exact .unreadable hnames hunreadable
    · cases hread : format.readDocument? text with
      | none =>
        rw [hread] at h
        cases h
        exact .parse hnames hholds hread
      | some d =>
        rw [hread] at h
        dsimp only at h
        split_ifs at h with hsound
        cases h
        obtain ⟨p, hp⟩ := not_forall_not.mp (mt Document.isSound_iff.mpr hsound)
        exact .invalid hnames hholds hread hp
  · intro h
    cases h with
    | noExtension hnone => exact .inl (.inl ⟨hnone, rfl⟩)
    | unsupported hextended hunknown => exact .inl (.inr ⟨_, hextended, hunknown, rfl⟩)
    | missing hnames hmissing => exact .inr ⟨_, hnames, .inl (.inl ⟨hmissing, rfl⟩)⟩
    | unreadable hnames hunreadable =>
      exact .inr ⟨_, hnames, .inl (.inr ⟨_, hunreadable, rfl⟩)⟩
    | parse hnames hholds hunread =>
      refine .inr ⟨_, hnames, .inr ⟨_, hholds, ?_⟩⟩
      rw [hunread]
    | invalid hnames hholds hreads hproblem =>
      refine .inr ⟨_, hnames, .inr ⟨_, hholds, ?_⟩⟩
      rw [hreads]
      exact if_neg fun hsound ↦ Document.isSound_iff.mp hsound _ hproblem

theorem loads_or_fault (files : Files) (path : String) :
    (∃! d, LoadsDeclarations files path d) ∧ (∀ e, ¬LoadFault files path e) ∨
      (∃! e, LoadFault files path e) ∧ ∀ d, ¬LoadsDeclarations files path d := by
  simp only [← loadDeclarations_eq_error_iff, ← loadDeclarations_eq_ok_iff_loads]
  cases loadDeclarations files path with
  | ok d => exact .inl ⟨⟨d, rfl, fun _ h ↦ (Except.ok.inj h).symm⟩, nofun⟩
  | error e => exact .inr ⟨⟨e, rfl, fun _ h ↦ (Except.error.inj h).symm⟩, nofun⟩

/-! ## Faults of the extension -/

/-- The error is about the extension of the path. -/
def LoadError.concernsExtension : LoadError → Bool
  | noExtension _ | unsupportedFormat _ => true
  | fileNotFound _ | unreadable .. | parse .. | invalidDocument _ => false

/-- A fault concerns the extension exactly if it is the fault of the path in every file system. -/
theorem concernsExtension_iff :
    LoadFault files path e ∧ e.concernsExtension = true ↔
      ∀ files', LoadFault files' path e := by
  constructor
  · rintro ⟨h, hextension⟩ files'
    cases h with
    | noExtension hnone => exact .noExtension hnone
    | unsupported hextended hunknown => exact .unsupported hextended hunknown
    | missing | unreadable | parse | invalid => cases hextension
  · intro h
    refine ⟨h files, ?_⟩
    -- without files, a path with a known extension is only missing
    have hempty := h fun _ ↦ .missing
    cases hempty with
    | noExtension | unsupported => rfl
    | missing =>
      cases h fun _ ↦ .unreadable "" with
      | missing _ hmissing => cases hmissing
    | unreadable _ hunreadable => cases hunreadable
    | parse _ hholds => cases hholds
    | invalid _ hholds => cases hholds

/-! ## Several paths -/

/-- **Loading declaration files.** The files load exactly if each of them does, and what they
declare is put together in the order of the paths. Otherwise the outcome is the fault of the first
path that does not load, whatever comes behind it. A path loads or has one fault, and the fault is
one of the extension exactly if it does not depend on the files. -/
theorem loadDeclarationFiles_exact (files : Files) (paths : List String) :
    (∀ groups, loadDeclarationFiles files paths = .ok groups ↔
      ∃ documents, List.Forall₂ (LoadsDeclarations files) paths documents ∧
        groups = documents.flatMap (·.groups)) ∧
    (∀ e, loadDeclarationFiles files paths = .error e ↔
      ∃ before path after, paths = before ++ path :: after ∧
        (∀ earlier ∈ before, ∃ d, LoadsDeclarations files earlier d) ∧ LoadFault files path e) ∧
    (∀ path, (∃! d, LoadsDeclarations files path d) ∧ (∀ e, ¬LoadFault files path e) ∨
      (∃! e, LoadFault files path e) ∧ ∀ d, ¬LoadsDeclarations files path d) ∧
    ∀ path e, LoadFault files path e ∧ e.concernsExtension = true ↔
      ∀ files', LoadFault files' path e := by
  refine ⟨fun groups ↦ ?_, fun e ↦ ?_, loads_or_fault files, fun path e ↦ concernsExtension_iff⟩
  · rw [loadDeclarationFiles, Outcome.map_eq_ok_iff]
    simp only [Outcome.mapM_eq_ok_iff, loadDeclarations_eq_ok_iff_loads]
    exact exists_congr fun documents ↦ and_congr_right' eq_comm
  · rw [loadDeclarationFiles, Outcome.map_eq_error_iff, Outcome.mapM_eq_error_iff]
    simp only [loadDeclarations_eq_ok_iff_loads, loadDeclarations_eq_error_iff]

/-- That the first file is missing is told before that the second could be no declaration file; and
that one is none although it is there. -/
example :
    let files : Files := fun path ↦ if path = "b.properties" then .text "k=v" else .missing
    loadDeclarationFiles files ["a.YML", "b.properties"] = .error (.fileNotFound "a.YML") ∧
      loadDeclarationFiles files ["b.properties", "a.YML"]
        = .error (.unsupportedFormat "properties") := by
  decide +kernel

end PropertyCatalog
