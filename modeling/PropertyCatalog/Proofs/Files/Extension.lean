import Mathlib.Data.List.TakeWhile
import PropertyCatalog.Load
import PropertyCatalog.Proofs.Outcome

/-!
# Extensions

Which extension a path has, read off its parts: the name of the file is the last part that says
something, and its extension stands behind the last dot that is not in front of it. Of a declaration
file the extension alone decides the format (`declarationFormat_eq_ok_iff`), and a path without one
of the four known extensions is refused for what it is called (`declarationFormat_eq_error_iff`).
-/

namespace PropertyCatalog

open Text

namespace PathName

variable {path extension : String} {name : List Char}

/-! ## Names of files -/

/-- The name is the last part of the path that says something, and it does not lead up. -/
structure HasFileName (path : String) (name : List Char) : Prop where
  /-- Only parts that say nothing follow. -/
  split : ∃ before idle, steps path = before ++ name :: idle ∧ ∀ step ∈ idle, isIdle step = true
  /-- The part says something. -/
  not_idle : isIdle name = false
  /-- It is no step to the folder above. -/
  not_up : isUp name = false

theorem fileName?_eq_some_iff : fileName? path = some name ↔ HasFileName path name := by
  rw [fileName?, Option.filter_eq_some_iff, List.getLast?_eq_some_iff, Bool.not_eq_true']
  constructor
  · rintro ⟨⟨front, hfilter⟩, hup⟩
    obtain ⟨before, rest, hsteps, -, hrest⟩ := List.filter_eq_append_iff.mp hfilter
    obtain ⟨skipped, idle, rfl, -, hname, hidle⟩ := List.filter_eq_cons_iff.mp hrest
    refine ⟨⟨before ++ skipped, idle, by rw [hsteps, List.append_assoc], fun step hstep ↦ ?_⟩,
      Bool.not_eq_true' _ ▸ hname, hup⟩
    have hnot := List.filter_eq_nil_iff.mp hidle step hstep
    rwa [Bool.not_eq_true', Bool.not_eq_false] at hnot
  · rintro ⟨⟨before, idle, hsteps, hidle⟩, hname, hup⟩
    have hnil : idle.filter (!isIdle ·) = [] := by
      refine List.filter_eq_nil_iff.mpr fun step hstep ↦ ?_
      rw [hidle step hstep]
      exact Bool.false_ne_true
    refine ⟨⟨before.filter (!isIdle ·), ?_⟩, hup⟩
    rw [hsteps, List.filter_append, List.filter_cons_of_pos (by rw [hname]; rfl), hnil]

/-! ## Extensions of names -/

/-- Behind the last dot stands the extension, unless nothing stands in front of that dot. -/
theorem extensionOf?_append_dot {stem extension : List Char} (h : '.' ∉ extension) :
    extensionOf? (stem ++ '.' :: extension) = if stem = [] then none else some extension := by
  have hpass : ∀ c ∈ extension.reverse, decide (c ≠ '.') = true := fun c hc ↦
    decide_eq_true fun heq ↦ h (heq ▸ List.mem_reverse.mp hc)
  have hreverse : (stem ++ '.' :: extension).reverse
      = extension.reverse ++ '.' :: stem.reverse := by
    simp
  rw [extensionOf?, hreverse, List.dropWhile_append_of_pos hpass,
    List.takeWhile_append_of_pos hpass]
  simp

theorem extensionOf?_of_notMem (h : '.' ∉ name) : extensionOf? name = none := by
  have hdrop : name.reverse.dropWhile (· ≠ '.') = [] := by
    refine List.dropWhile_eq_nil_iff.mpr fun c hc ↦ decide_eq_true fun heq ↦ ?_
    exact h (heq ▸ List.mem_reverse.mp hc)
  rw [extensionOf?, hdrop]
  rfl

theorem extensionOf?_eq_some_iff {extension : List Char} :
    extensionOf? name = some extension ↔
      ∃ stem, stem ≠ [] ∧ name = stem ++ '.' :: extension ∧ '.' ∉ extension := by
  constructor
  · intro h
    by_cases hdot : '.' ∈ name
    · -- the first dot from the back is the last one from the front
      obtain ⟨after, before, hreverse, hafter⟩ :=
        List.eq_append_cons_of_mem (List.mem_reverse.mpr hdot)
      have hname : name = before.reverse ++ '.' :: after.reverse := by
        rw [← List.reverse_reverse name, hreverse]
        simp
      have hfree : '.' ∉ after.reverse := mt List.mem_reverse.mp hafter
      rw [hname, extensionOf?_append_dot hfree, Option.ite_none_left_eq_some] at h
      obtain ⟨hstem, ⟨⟩⟩ := h
      exact ⟨_, hstem, hname, hfree⟩
    · rw [extensionOf?_of_notMem hdot] at h
      cases h
  · rintro ⟨stem, hstem, rfl, hextension⟩
    rw [extensionOf?_append_dot hextension, if_neg hstem]

/-! ## Extensions of paths -/

/-- The name of the file at the path ends in a dot and the extension, and does not begin with that
dot. -/
def HasExtension (path extension : String) : Prop :=
  ∃ stem, stem ≠ [] ∧ HasFileName path (stem ++ '.' :: extension.toList) ∧
    '.' ∉ extension.toList

theorem extension?_eq_some_iff :
    extension? path = some extension ↔ HasExtension path extension := by
  have hbind : extension? path = some extension ↔
      ∃ name, fileName? path = some name ∧ extensionOf? name = some extension.toList := by
    rw [extension?, Option.map_eq_some_iff]
    simp only [bind, Option.bind_eq_some_iff]
    constructor
    · rintro ⟨cs, ⟨name, hname, hextension⟩, rfl⟩
      exact ⟨name, hname, by rw [hextension, String.toList_ofList]⟩
    · rintro ⟨name, hname, hextension⟩
      exact ⟨_, ⟨name, hname, hextension⟩, String.ofList_toList⟩
  rw [hbind]
  simp only [fileName?_eq_some_iff, extensionOf?_eq_some_iff]
  constructor
  · rintro ⟨_, hname, stem, hstem, rfl, hfree⟩
    exact ⟨stem, hstem, hname, hfree⟩
  · rintro ⟨stem, hstem, hname, hfree⟩
    exact ⟨_, hname, stem, hstem, rfl, hfree⟩

theorem extension?_eq_none_iff :
    extension? path = none ↔ ∀ extension, ¬HasExtension path extension := by
  rw [Option.eq_none_iff_forall_ne_some]
  exact forall_congr' fun _ ↦ not_congr extension?_eq_some_iff

end PathName

/-! ## Formats of declaration files -/

/-- The extensions of declaration files, each with the format that it stands for. -/
def declarationExtensions : List (String × FileFormat) :=
  [("toml", .toml), ("yaml", .yaml), ("yml", .yaml), ("json", .json)]

/-- The path has the extension of a declaration file, in any ASCII case, and this is its format. -/
def NamesDeclarations (path : String) (format : FileFormat) : Prop :=
  ∃ extension, PathName.HasExtension path extension ∧
    (asciiLower extension, format) ∈ declarationExtensions

variable {path extension : String} {format : FileFormat} {e : LoadError}

theorem ofExtension?_eq_lookup (h : extension ≠ FileFormat.properties.name) :
    FileFormat.ofExtension? extension = declarationExtensions.lookup extension := by
  unfold FileFormat.ofExtension?
  split
  case h_5 => exact absurd rfl h
  case h_6 htoml hyaml hyml hjson _ =>
    refine (List.lookup_eq_none_iff.mpr ?_).symm
    simpa [declarationExtensions] using ⟨htoml, hyaml, hyml, hjson⟩
  all_goals rfl

/-- A known extension stands for its format, and any other is refused in lower case. -/
theorem declarationFormat_of_hasExtension (h : PathName.HasExtension path extension) :
    declarationFormat path = (declarationExtensions.lookup (asciiLower extension)).elim
      (.error (.unsupportedFormat (asciiLower extension))) .ok := by
  rw [declarationFormat, FileFormat.ofPath, PathName.extension?_eq_some_iff.mpr h, Option.map_some]
  by_cases hproperties : asciiLower extension = FileFormat.properties.name
  · rw [hproperties]
    rfl
  · dsimp only
    rw [ofExtension?_eq_lookup hproperties]
    cases hlookup : declarationExtensions.lookup (asciiLower extension) with
    | none => rfl
    | some format =>
      have hmem := (TextMap.lookup_eq_some_iff_mem (by decide)).mp hlookup
      simp only [declarationExtensions, List.mem_cons, Prod.mk.injEq] at hmem
      cases format with
      | properties => simp at hmem
      | toml | yaml | json => rfl

theorem declarationFormat_of_noExtension (h : ∀ extension, ¬PathName.HasExtension path extension) :
    declarationFormat path = .error (.noExtension path) := by
  rw [declarationFormat, FileFormat.ofPath, PathName.extension?_eq_none_iff.mpr h]
  rfl

theorem mem_declarationExtensions_iff {s : String} :
    (s, format) ∈ declarationExtensions ↔ declarationExtensions.lookup s = some format :=
  (TextMap.lookup_eq_some_iff_mem (by decide)).symm

theorem declarationFormat_eq_ok_iff :
    declarationFormat path = .ok format ↔ NamesDeclarations path format := by
  constructor
  · intro h
    by_cases hextension : ∃ extension, PathName.HasExtension path extension
    · obtain ⟨extension, hextension⟩ := hextension
      rw [declarationFormat_of_hasExtension hextension] at h
      refine ⟨extension, hextension, mem_declarationExtensions_iff.mpr ?_⟩
      cases hlookup : declarationExtensions.lookup (asciiLower extension) with
      | none => simp [hlookup] at h
      | some known => simpa [hlookup] using h
    · rw [declarationFormat_of_noExtension (not_exists.mp hextension)] at h
      cases h
  · rintro ⟨extension, hextension, hmem⟩
    rw [declarationFormat_of_hasExtension hextension, mem_declarationExtensions_iff.mp hmem]
    rfl

theorem declarationFormat_eq_error_iff :
    declarationFormat path = .error e ↔
      (∀ extension, ¬PathName.HasExtension path extension) ∧ e = .noExtension path ∨
        ∃ extension, PathName.HasExtension path extension ∧
          asciiLower extension ∉ declarationExtensions.map (·.1) ∧
            e = .unsupportedFormat (asciiLower extension) := by
  have hother {s : String} : s ∉ declarationExtensions.map (·.1) ↔
      declarationExtensions.lookup s = none := by
    rw [List.lookup_eq_none_iff]
    simp [declarationExtensions]
  constructor
  · intro h
    by_cases hextension : ∃ extension, PathName.HasExtension path extension
    · obtain ⟨extension, hextension⟩ := hextension
      rw [declarationFormat_of_hasExtension hextension] at h
      cases hlookup : declarationExtensions.lookup (asciiLower extension) with
      | none =>
        rw [hlookup] at h
        cases h
        exact .inr ⟨extension, hextension, hother.mpr hlookup, rfl⟩
      | some known => simp [hlookup] at h
    · rw [declarationFormat_of_noExtension (not_exists.mp hextension)] at h
      cases h
      exact .inl ⟨not_exists.mp hextension, rfl⟩
  · rintro (⟨hnone, rfl⟩ | ⟨extension, hextension, hmem, rfl⟩)
    · exact declarationFormat_of_noExtension hnone
    · rw [declarationFormat_of_hasExtension hextension, hother.mp hmem]
      rfl

end PropertyCatalog
