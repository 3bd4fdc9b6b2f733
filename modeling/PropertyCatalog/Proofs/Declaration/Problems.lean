import Mathlib.Data.List.Sigma
import PropertyCatalog.Load
import PropertyCatalog.Proofs.Scan.FirstFault
import PropertyCatalog.Proofs.Text.Numeral

/-!
# The problems of documents

The check of a document does not end at the first fault: every part whose length is out of bounds
is a problem, and the report names it once. `HasProblem` reads the problems off the document; that
the check finds them is shown level by level, for the field at a position, for the group at a
position and for the document.

The check and the scan restrict overlapping things. The check counts the characters of a text as it
is given, the scan looks at what is left without the blanks around it. So a name of one blank passes
the check, and it is for the scan to refuse it; but a scan of what the check accepts meets no group
without fields and no name without characters.
-/

namespace PropertyCatalog.Declaration

open Text

/-! ## Lengths -/

/-- The text has too few or too many characters. -/
def IsMisfit (s : String) : Prop := s.length < 1 ∨ 255 < s.length

theorem not_hasNameLength_iff {s : String} : ¬hasNameLength s = true ↔ IsMisfit s := by
  rw [hasNameLength, IsMisfit, Bool.and_eq_true, decide_eq_true_eq, decide_eq_true_eq]
  omega

/-! ## The problems, read off a document -/

/-- The parts of a document whose length is out of bounds. -/
inductive Document.HasProblem (d : Document) : Problem → Prop
  /-- There is no group. -/
  | noGroup (empty : d.groups = []) : HasProblem d .noGroup
  /-- A group has no field. -/
  | noField {i : Nat} {g : Group} (group : d.groups[i]? = some g) (empty : g.fields = []) :
      HasProblem d (.noField i)
  /-- The length of a field's name. -/
  | name {i j : Nat} {g : Group} {f : Field} (group : d.groups[i]? = some g)
      (field : g.fields[j]? = some f) (misfit : IsMisfit f.name) : HasProblem d (.name i j)
  /-- The length of a field's type. -/
  | declaredType {i j : Nat} {g : Group} {f : Field} (group : d.groups[i]? = some g)
      (field : g.fields[j]? = some f) (misfit : IsMisfit f.declaredType) :
      HasProblem d (.declaredType i j)

/-! ## One level

A group and a document are checked alike. A list must not be empty, and each of its elements is
checked at its position. -/

namespace Problem

/-- The position of the group that the problem is in. -/
def group? : Problem → Option Nat
  | noGroup => none
  | noField i | name i _ | declaredType i _ => some i

/-- The position of the field that the problem is in. -/
def field? : Problem → Option Nat
  | noGroup | noField _ => none
  | name _ j | declaredType _ j => some j

variable {α : Type} {xs : List α} {empty : Problem} {problems : α × Nat → List Problem}

theorem mem_level_iff {p : Problem} :
    p ∈ (if xs.isEmpty then [empty] else []) ++ xs.zipIdx.flatMap problems ↔
      p = empty ∧ xs = [] ∨ ∃ x i, xs[i]? = some x ∧ p ∈ problems (x, i) := by
  rw [List.mem_append, List.mem_ite_nil_right, List.isEmpty_iff, List.mem_singleton,
    List.mem_flatMap, and_comm]
  simp only [Prod.exists, List.mk_mem_zipIdx_iff_getElem?]

/-- The problems of a level are distinct if those of each element are, and tell at which position
the element stands. -/
theorem nodup_level (position? : Problem → Option Nat) (hnodup : ∀ x, (problems x).Nodup)
    (hposition : ∀ x, ∀ p ∈ problems x, position? p = some x.2) :
    ((if xs.isEmpty then [empty] else []) ++ xs.zipIdx.flatMap problems).Nodup := by
  cases xs with
  | nil => exact List.nodup_singleton _
  | cons x rest =>
    refine List.nodup_flatMap.mpr ⟨fun y _ ↦ hnodup y, ?_⟩
    have hpositions := List.pairwise_map.mp (List.nodup_zipIdx_map_snd (x :: rest))
    refine hpositions.imp fun {y z} hne p hy hz ↦ hne ?_
    exact Option.some_inj.mp ((hposition y p hy).symm.trans (hposition z p hz))

end Problem

/-! ## Every problem is found -/

variable {p : Problem}

theorem Field.mem_problems_iff {f : Field} {i j : Nat} :
    p ∈ f.problems i j ↔
      p = .name i j ∧ IsMisfit f.name ∨ p = .declaredType i j ∧ IsMisfit f.declaredType := by
  rw [problems, List.mem_append, List.mem_ite_nil_left, List.mem_ite_nil_left, List.mem_singleton,
    List.mem_singleton, not_hasNameLength_iff, not_hasNameLength_iff, and_comm,
    and_comm (a := IsMisfit f.declaredType)]

theorem Group.mem_problems_iff {g : Group} {i : Nat} :
    p ∈ g.problems i ↔
      p = .noField i ∧ g.fields = [] ∨
        ∃ (f : Field) (j : Nat), g.fields[j]? = some f ∧ p ∈ f.problems i j :=
  Problem.mem_level_iff

namespace Document

variable {d : Document}

theorem mem_problems_iff :
    p ∈ d.problems ↔
      p = .noGroup ∧ d.groups = [] ∨
        ∃ (g : Group) (i : Nat), d.groups[i]? = some g ∧ p ∈ g.problems i :=
  Problem.mem_level_iff

theorem mem_problems_iff_hasProblem : p ∈ d.problems ↔ d.HasProblem p := by
  constructor
  · intro h
    obtain ⟨rfl, hempty⟩ | ⟨g, i, hg, h⟩ := mem_problems_iff.mp h
    · exact .noGroup hempty
    obtain ⟨rfl, hempty⟩ | ⟨f, j, hf, h⟩ := Group.mem_problems_iff.mp h
    · exact .noField hg hempty
    obtain ⟨rfl, hmisfit⟩ | ⟨rfl, hmisfit⟩ := Field.mem_problems_iff.mp h
    · exact .name hg hf hmisfit
    · exact .declaredType hg hf hmisfit
  · -- each problem is handed down to the level at which it is found
    have of_group {g : Group} {i : Nat} (hg : d.groups[i]? = some g) (h : p ∈ g.problems i) :
        p ∈ d.problems := mem_problems_iff.mpr (.inr ⟨g, i, hg, h⟩)
    have of_field {g : Group} {f : Field} {i j : Nat} (hg : d.groups[i]? = some g)
        (hf : g.fields[j]? = some f) (h : p ∈ f.problems i j) : p ∈ d.problems :=
      of_group hg (Group.mem_problems_iff.mpr (.inr ⟨f, j, hf, h⟩))
    intro h
    cases h with
    | noGroup hempty => exact mem_problems_iff.mpr (.inl ⟨rfl, hempty⟩)
    | noField hg hempty => exact of_group hg (Group.mem_problems_iff.mpr (.inl ⟨rfl, hempty⟩))
    | name hg hf hmisfit =>
      exact of_field hg hf (Field.mem_problems_iff.mpr (.inl ⟨rfl, hmisfit⟩))
    | declaredType hg hf hmisfit =>
      exact of_field hg hf (Field.mem_problems_iff.mpr (.inr ⟨rfl, hmisfit⟩))

theorem isSound_iff : d.isSound = true ↔ ∀ p, ¬d.HasProblem p := by
  rw [isSound, List.isEmpty_iff, List.eq_nil_iff_forall_not_mem]
  simp only [mem_problems_iff_hasProblem]

end Document

/-! ## No problem is found twice -/

theorem Field.nodup_problems (f : Field) (i j : Nat) : (f.problems i j).Nodup := by
  rw [problems]
  split_ifs <;> simp

theorem Field.field?_of_mem_problems {f : Field} {i j : Nat} (h : p ∈ f.problems i j) :
    p.field? = some j := by
  obtain ⟨rfl, -⟩ | ⟨rfl, -⟩ := mem_problems_iff.mp h <;> rfl

theorem Field.group?_of_mem_problems {f : Field} {i j : Nat} (h : p ∈ f.problems i j) :
    p.group? = some i := by
  obtain ⟨rfl, -⟩ | ⟨rfl, -⟩ := mem_problems_iff.mp h <;> rfl

theorem Group.nodup_problems (g : Group) (i : Nat) : (g.problems i).Nodup :=
  Problem.nodup_level Problem.field? (fun x ↦ x.1.nodup_problems i x.2)
    fun _ _ h ↦ Field.field?_of_mem_problems h

theorem Group.group?_of_mem_problems {g : Group} {i : Nat} (h : p ∈ g.problems i) :
    p.group? = some i := by
  obtain ⟨rfl, -⟩ | ⟨f, j, -, h⟩ := mem_problems_iff.mp h
  · rfl
  · exact Field.group?_of_mem_problems h

theorem Document.nodup_problems (d : Document) : d.problems.Nodup :=
  Problem.nodup_level Problem.group? (fun x ↦ x.1.nodup_problems x.2)
    fun _ _ h ↦ Group.group?_of_mem_problems h

/-! ## The report tells the problems apart -/

namespace Problem

theorem toDigits_ten_inj {m n : Nat} : Nat.toDigits 10 m = Nat.toDigits 10 n ↔ m = n := by
  refine ⟨fun h ↦ ?_, congrArg _⟩
  rw [← Nat.ofDigitChars_ten_toDigits (n := m), h, Nat.ofDigitChars_ten_toDigits]

/-- A number is read back from what follows an opening bracket, up to the closing one. -/
theorem toDigits_append_bracket_iff {m n : Nat} {as bs : List Char} :
    Nat.toDigits 10 m ++ ']' :: as = Nat.toDigits 10 n ++ ']' :: bs ↔ m = n ∧ as = bs := by
  refine ⟨fun h ↦ ?_, fun h ↦ by rw [h.1, h.2]⟩
  have hfree (k : Nat) : ']' ∉ Nat.toDigits 10 k :=
    fun hmem ↦ absurd (isDigit_of_mem_toDigits _ hmem) (by decide)
  have hcut := cut?_char_eq_some_iff.mpr ⟨h, hfree n⟩
  rw [cut?_char_eq_some_iff.mpr ⟨rfl, hfree m⟩, Option.some_inj, Prod.mk.injEq] at hcut
  exact ⟨toDigits_ten_inj.mp hcut.1, hcut.2⟩

theorem place_injective : Function.Injective place := by
  intro p q
  rw [← String.toList_inj]
  cases p <;> cases q <;>
    simp [place_noGroup, place_noField, place_name, place_declaredType, toDigits_ten_inj,
      toDigits_append_bracket_iff]

theorem message_injective : Function.Injective message :=
  fun _ _ h ↦ place_injective ((String.append_left_inj _).mp h)

end Problem

namespace Document

variable {d : Document}

theorem message_mem_problemMessages_iff : p.message ∈ d.problemMessages ↔ d.HasProblem p := by
  rw [problemMessages, List.mem_mergeSort, List.mem_map_of_injective Problem.message_injective,
    mem_problems_iff_hasProblem]

theorem nodup_problemMessages (d : Document) : d.problemMessages.Nodup :=
  List.nodup_mergeSort.mpr (d.nodup_problems.map Problem.message_injective)

/-! ## What the check keeps from the scan -/

theorem fields_ne_nil_of_isSound (h : d.isSound = true) : ∀ g ∈ d.groups, g.fields ≠ [] := by
  intro g hg hempty
  obtain ⟨i, hi⟩ := List.mem_iff_getElem?.mp hg
  exact isSound_iff.mp h _ (.noField hi hempty)

theorem name_ne_empty_of_isSound (h : d.isSound = true) :
    ∀ g ∈ d.groups, ∀ f ∈ g.fields, f.name ≠ "" := by
  intro g hg f hf hname
  obtain ⟨i, hi⟩ := List.mem_iff_getElem?.mp hg
  obtain ⟨j, hj⟩ := List.mem_iff_getElem?.mp hf
  have hmisfit : IsMisfit f.name := by
    rw [hname]
    exact .inl Nat.zero_lt_one
  exact isSound_iff.mp h _ (.name hi hj hmisfit)

end Document

namespace Group.FirstFault

variable {declared : Group} {registry : TypeRegistry} {index : Nat} {root name : String}

theorem fields_eq_nil (h : declared.FirstFault registry index (.emptyGroup root)) :
    declared.fields = [] := by
  cases h with
  | empty _ hempty => exact hempty
  | field _ _ _ hfault => cases hfault

theorem exists_name_eq (h : declared.FirstFault registry index (.invalidField root name)) :
    ∃ f ∈ declared.fields, f.name = name := by
  cases h with
  | field _ hfields _ hfault =>
    cases hfault
    exact ⟨_, hfields ▸ List.mem_append_right _ List.mem_cons_self, rfl⟩

end Group.FirstFault

end PropertyCatalog.Declaration

namespace PropertyCatalog

open Declaration

namespace ScanPolicy

variable {policy : ScanPolicy} {declared : List Group} {root name : String}

theorem exists_fields_eq_nil_of_scan (h : policy.scan declared = .error (.emptyGroup root)) :
    ∃ g ∈ declared, g.fields = [] := by
  obtain ⟨before, g, after, rfl, -, hfault⟩ := scan_eq_error_iff.mp h
  exact ⟨g, List.mem_append_right _ List.mem_cons_self, hfault.fields_eq_nil⟩

theorem exists_name_eq_of_scan (h : policy.scan declared = .error (.invalidField root name)) :
    ∃ g ∈ declared, ∃ f ∈ g.fields, f.name = name := by
  obtain ⟨before, g, after, rfl, -, hfault⟩ := scan_eq_error_iff.mp h
  exact ⟨g, List.mem_append_right _ List.mem_cons_self, hfault.exists_name_eq⟩

theorem scan_of_isSound {documents : List Document} (h : ∀ d ∈ documents, d.isSound = true)
    (policy : ScanPolicy) :
    (∀ root, policy.scan (documents.flatMap (·.groups)) ≠ .error (.emptyGroup root)) ∧
      ∀ root name, policy.scan (documents.flatMap (·.groups)) = .error (.invalidField root name) →
        name ≠ "" := by
  constructor
  · intro root hscan
    obtain ⟨g, hg, hempty⟩ := exists_fields_eq_nil_of_scan hscan
    obtain ⟨d, hd, hgroup⟩ := List.mem_flatMap.mp hg
    exact Document.fields_ne_nil_of_isSound (h d hd) g hgroup hempty
  · rintro root name hscan
    obtain ⟨g, hg, f, hf, rfl⟩ := exists_name_eq_of_scan hscan
    obtain ⟨d, hd, hgroup⟩ := List.mem_flatMap.mp hg
    exact Document.name_ne_empty_of_isSound (h d hd) g hgroup f hf

end ScanPolicy

/-! ## Loading -/

theorem loadDeclarations_eq_ok_iff {files : Files} {path : String} {d : Document} :
    loadDeclarations files path = .ok d ↔
      ∃ format text, declarationFormat path = .ok format ∧ files.read path = .ok text ∧
        format.readDocument? text = some d ∧ d.isSound = true := by
  simp only [loadDeclarations, Outcome.bind_eq_ok_iff]
  constructor
  · rintro ⟨format, hformat, text, htext, h⟩
    cases hread : format.readDocument? text with
    | none =>
      rw [hread] at h
      cases h
    | some read =>
      rw [hread] at h
      dsimp only at h
      split_ifs at h with hsound
      cases h
      exact ⟨format, text, hformat, htext, hread, hsound⟩
  · rintro ⟨format, text, hformat, htext, hread, hsound⟩
    refine ⟨format, hformat, text, htext, ?_⟩
    rw [hread]
    exact if_pos hsound

/-- Whatever files declarations are loaded from, a scan of them reports no group without fields and
no field without a name. -/
theorem scan_of_loadDeclarationFiles {files : Files} {paths : List String} {groups : List Group}
    (h : loadDeclarationFiles files paths = .ok groups) (policy : ScanPolicy) :
    (∀ root, policy.scan groups ≠ .error (.emptyGroup root)) ∧
      ∀ root name, policy.scan groups = .error (.invalidField root name) → name ≠ "" := by
  obtain ⟨documents, hdocuments, rfl⟩ := Outcome.map_eq_ok_iff.mp h
  refine policy.scan_of_isSound fun d hd ↦ ?_
  obtain ⟨path, -, hload⟩ :=
    Outcome.exists_of_mem_of_forall₂ (Outcome.mapM_eq_ok_iff.mp hdocuments) hd
  obtain ⟨-, -, -, -, -, hsound⟩ := loadDeclarations_eq_ok_iff.mp hload
  exact hsound

/-! ## The check -/

/-- **The check of a document.** Its problems are exactly the lists and texts whose length is out of
bounds, and the report names each of them once. The document is accepted exactly if there is none,
and then no scan reports a group without fields, or a name without characters. -/
theorem Declaration.Document.check_exact (d : Document) :
    (∀ p, p ∈ d.problems ↔ d.HasProblem p) ∧ d.problems.Nodup ∧
      (∀ p, p.message ∈ d.problemMessages ↔ d.HasProblem p) ∧ d.problemMessages.Nodup ∧
      (d.isSound = true ↔ ∀ p, ¬d.HasProblem p) ∧
      (d.isSound = true → ∀ policy : ScanPolicy,
        (∀ root, policy.scan d.groups ≠ .error (.emptyGroup root)) ∧
          ∀ root name, policy.scan d.groups = .error (.invalidField root name) → name ≠ "") := by
  refine ⟨fun _ ↦ mem_problems_iff_hasProblem, d.nodup_problems,
    fun _ ↦ message_mem_problemMessages_iff, d.nodup_problemMessages, isSound_iff,
    fun hsound policy ↦ ?_⟩
  have hscan := policy.scan_of_isSound (List.forall_mem_singleton.mpr hsound)
  rwa [List.flatMap_singleton] at hscan

/-- A name of one blank has a length that the check accepts; that it is no path shows in a scan. -/
example :
    let d : Document := ⟨[{ root := "app", fields := [{ name := " ", declaredType := "u8" }] }]⟩
    d.isSound = true ∧ ScanPolicy.scan {} d.groups = .error (.invalidField "app" " ") := by
  decide +kernel

end PropertyCatalog
