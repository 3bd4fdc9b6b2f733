import PropertyCatalog.Proofs.Scan.Agreement
import PropertyCatalog.Proofs.Text.Words

/-!
# Optional types

What `Option<…>` around a declared type does. A scan takes three things from the text of a declared
type: the name in it, whether the name stood inside `Option<…>`, and the text itself, which one
error repeats. So two fields that declare one name pass the same checks and fail at the same one
(`related_scanField_of_declaredType`), and an optional type differs from the type in it in a single
flag: its property has to be bound only where the declaration says so.
-/

namespace PropertyCatalog

open Text Declaration

/-! ## Declared types -/

theorem toList_optional (inner : String) :
    ("Option<" ++ inner ++ ">").toList = "Option<".toList ++ inner.toList ++ ['>'] := by
  rw [String.toList_append, String.toList_append]
  rfl

theorem trimmed_optional (inner : List Char) :
    trimmed ("Option<".toList ++ inner ++ ['>']) = "Option<".toList ++ inner ++ ['>'] := by
  have hnone : "Option<".toList.any isBlank = false := by decide
  have hopening : IsWord "Option<".toList :=
    ⟨by decide, fun c hc ↦ Bool.not_eq_true _ ▸ List.any_eq_false.mp hnone c hc⟩
  have hclosing : IsWord ['>'] := isWord_singleton (by decide)
  exact (hopening.hasPlainEnds.append hclosing.hasPlainEnds hopening.ne_nil hclosing.ne_nil
    inner).trimmed_eq

/-- Inside `Option<…>` stands the declared type, wherever there are blanks. -/
theorem unwrapOptional_of_isPadded {declaredType inner wrapped : String}
    (hinner : IsPadded declaredType inner)
    (hwrapped : IsPadded ("Option<" ++ inner ++ ">") wrapped) :
    unwrapOptional (trimmed wrapped.toList) = (trimmed declaredType.toList, true) := by
  rw [hwrapped.trimmed_eq, toList_optional, trimmed_optional, unwrapOptional_optional,
    hinner.trimmed_eq]

/-! ## Faults of other declared types -/

namespace ScanError

/-- The path that the fault is about, where it names one. -/
def path? : ScanError → Option String
  | unsupportedType path _ | multilineDefault path .. | invalidDefault path .. => some path
  | invalidRoot .. | emptyGroup .. | invalidField .. => none

/-- The fault as it is reported of a field with another declared type. -/
def withDeclaredType (declaredType : String) : ScanError → ScanError
  | unsupportedType path _ => unsupportedType path declaredType
  | e => e

variable (e : ScanError) (declaredType : String)

theorem kind_withDeclaredType : (e.withDeclaredType declaredType).kind = e.kind := by
  cases e <;> rfl

theorem path?_withDeclaredType : (e.withDeclaredType declaredType).path? = e.path? := by
  cases e <;> rfl

end ScanError

/-! ## Two fields -/

namespace ScanPolicy

/-- Fields that differ in the text of the declared type, but not in the name in it, make properties
that differ at most in whether they have to be bound, or fail at the same check. -/
theorem related_scanField_of_declaredType (policy : ScanPolicy) (root : String) {field : Field}
    {declaredType : String}
    (h : (unwrapOptional (trimmed declaredType.toList)).1
      = (unwrapOptional (trimmed field.declaredType.toList)).1) :
    Outcome.Related (fun e e' ↦ e' = e.withDeclaredType declaredType)
      (fun p q ↦ q = { p with
        required := policy.rule.isRequired field
          (unwrapOptional (trimmed declaredType.toList)).2 })
      (policy.scanField root field) (policy.scanField root { field with declaredType }) := by
  have hagrees : field.Agrees { field with declaredType } := ⟨rfl, h, rfl, rfl⟩
  have hrelated := policy.related_scanField_of_agrees root hagrees
  refine (hrelated.imp_error ?_).imp ?_
  · rintro e _ ⟨hfault, rfl⟩
    -- the texts that a first fault repeats are those of its field
    cases hfault <;> rfl
  · rintro _ _ - - ⟨meaning, rfl, rfl⟩
    rfl

/-- Under every rule an optional type leaves it to the declaration whether a value is required. -/
theorem isRequired_of_optional (rule : RequiredRule) (field : Field) :
    rule.isRequired field true = field.required.getD false := by
  unfold RequiredRule.isRequired
  cases field.required with
  | some explicit => rfl
  | none =>
    cases rule with
    | inferred => exact Bool.and_false _
    | explicitOnly => rfl

/-- **Optional types.** Put a declared type that is not optional inside `Option<…>`, with blanks
wherever they may stand. The field scans exactly if it did before, and its property is the same
except that it has to be bound only where the declaration says so. If it does not scan, the error is
of the same kind and about the same path, and repeats the declared type where it did before. -/
theorem related_scanField_optional (policy : ScanPolicy) (root : String) (field : Field)
    {inner wrapped : String}
    (hbare : ∀ inside : String, trim field.declaredType ≠ "Option<" ++ inside ++ ">")
    (hinner : IsPadded field.declaredType inner)
    (hwrapped : IsPadded ("Option<" ++ inner ++ ">") wrapped) :
    Outcome.Related
      (fun e e' ↦ e'.kind = e.kind ∧ e'.path? = e.path? ∧ e' = e.withDeclaredType wrapped)
      (fun p q ↦ q = { p with required := field.required.getD false })
      (policy.scanField root field)
      (policy.scanField root { field with declaredType := wrapped }) := by
  have hplain : ∀ inside : List Char,
      trimmed field.declaredType.toList ≠ "Option<".toList ++ inside ++ ['>'] := by
    intro inside heq
    have hinside : (String.ofList inside).toList = inside := String.toList_ofList
    refine hbare (String.ofList inside) (String.toList_inj.mp ?_)
    rw [toList_trim, heq, toList_optional, hinside]
  have hoptional := unwrapOptional_of_isPadded hinner hwrapped
  have hname : (unwrapOptional (trimmed wrapped.toList)).1
      = (unwrapOptional (trimmed field.declaredType.toList)).1 := by
    rw [hoptional, unwrapOptional_of_bare hplain]
  have hrelated := related_scanField_of_declaredType policy root hname
  rw [hoptional, isRequired_of_optional] at hrelated
  refine hrelated.imp_error fun e e' he ↦ ?_
  rw [he]
  exact ⟨e.kind_withDeclaredType wrapped, e.path?_withDeclaredType wrapped, rfl⟩

/-- A reference to a group, with blanks at all four places: without `Option<…>` it has to be bound,
inside it need not be. -/
theorem related_scanField_optional_reference :
    let field : Field := { name := " db", declaredType := "group: app.db " }
    let inner : String := " group: app.db \t"
    let wrapped : String := "\n Option< group: app.db \t> "
    let p : Property := ⟨"a.db", .group, none, true, "a", none, [], some "app.db"⟩
    (∀ inside : String, trim field.declaredType ≠ "Option<" ++ inside ++ ">") ∧
      IsPadded field.declaredType inner ∧ IsPadded ("Option<" ++ inner ++ ">") wrapped ∧
      scanField {} "a" field = .ok p ∧
      scanField {} "a" { field with declaredType := wrapped } = .ok { p with required := false } := by
  intro field inner wrapped p
  have hbare : ∀ inside : String, trim field.declaredType ≠ "Option<" ++ inside ++ ">" := by
    intro inside heq
    have hheads := congrArg (·.toList.head?) heq
    have hleft : (trim field.declaredType).toList.head? = some 'g' := by decide +kernel
    have hright : ("Option<" ++ inside ++ ">").toList.head? = some 'O' := by
      rw [toList_optional]
      rfl
    rw [hleft, hright] at hheads
    cases hheads
  have hinner : IsPadded field.declaredType inner :=
    ⟨[' '], ['\t'], List.all_eq_true.mp (by decide), List.all_eq_true.mp (by decide),
      by decide +kernel⟩
  have hwrapped : IsPadded ("Option<" ++ inner ++ ">") wrapped :=
    ⟨['\n', ' '], [' '], List.all_eq_true.mp (by decide), List.all_eq_true.mp (by decide),
      by decide +kernel⟩
  have hscan : scanField {} "a" field = .ok p := by decide +kernel
  have hrelated := related_scanField_optional {} "a" field hbare hinner hwrapped
  rw [hscan] at hrelated
  generalize scanField {} "a" { field with declaredType := wrapped } = y at hrelated ⊢
  cases hrelated with
  | ok hq => exact ⟨hbare, hinner, hwrapped, hscan, congrArg Except.ok hq⟩

end ScanPolicy

end PropertyCatalog
