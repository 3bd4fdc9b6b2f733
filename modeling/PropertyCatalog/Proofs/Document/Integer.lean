import PropertyCatalog.Proofs.Coercion.Displayed
import PropertyCatalog.Proofs.Document.Flatten

/-!
# Integers in documents

The integers of a document reach from the least one of 64 bits with a sign to the greatest one
without. A bound value holds those with a sign only, so from `2 ^ 63` on the integer is bound as
text. Neither reader of the value can tell: it is shown as the same digits on both sides of the
limit (`display_boundValue_integer`), and since an integer is judged like its text, it is judged
alike too (`coercesTo_boundValue_integer`). What is left to show is where the leaf binds the value:
in the walk always, and in the flattened tree unless a later leaf has the same path
(`Tree.keepsInteger_of_reaches`).
-/

namespace PropertyCatalog.Document

open Text

/-! ## The value of an integer -/

/-- The value stands for the integer, in whichever form. -/
structure KeepsInteger (value : BoundValue) (n : Int) : Prop where
  /-- With a sign and 64 bits it is an integer. -/
  eq_integer : n ≤ 2 ^ 63 - 1 → ∃ i : Int64, i.toInt = n ∧ value = .integer i
  /-- Above, it is a text. -/
  eq_text : 2 ^ 63 ≤ n → value = .text (toString n)
  /-- It is shown as the decimal digits. -/
  display_eq : value.display = toString n
  /-- It is an integer for any property that wants one. -/
  coercesTo_integer : ∀ members, value.coercesTo .integer members = true
  /-- It is a duration unless it is negative. -/
  coercesTo_duration_iff : ∀ members, value.coercesTo .duration members = true ↔ 0 ≤ n

variable {n : Int}

theorem boundValue_integer_of_le (hmin : -2 ^ 63 ≤ n) (hmax : n ≤ 2 ^ 63 - 1) :
    ∃ i : Int64, i.toInt = n ∧ (Number.integer n).boundValue = .integer i := by
  have hleast : Int64.minValue.toInt = -2 ^ 63 := by decide
  have hgreatest : Int64.maxValue.toInt = 2 ^ 63 - 1 := by decide
  have hword : int64? n = some (Int64.ofInt n) :=
    if_pos ⟨hleast.symm ▸ hmin, hgreatest.symm ▸ hmax⟩
  refine ⟨Int64.ofInt n, int64?_eq_some_iff.mp hword, ?_⟩
  rw [Number.boundValue, hword]
  rfl

theorem boundValue_integer_of_ge (h : 2 ^ 63 ≤ n) :
    (Number.integer n).boundValue = .text (toString n) := by
  have hgreatest : Int64.maxValue.toInt = 2 ^ 63 - 1 := by decide
  have hword : int64? n = none := if_neg fun hle ↦ by omega
  rw [Number.boundValue, hword]
  rfl

/-- An integer is shown as its digits, on both sides of the limit. -/
theorem display_boundValue_integer (hmin : -2 ^ 63 ≤ n) :
    (Number.integer n).boundValue.display = toString n := by
  by_cases hmax : n ≤ 2 ^ 63 - 1
  · obtain ⟨i, rfl, hvalue⟩ := boundValue_integer_of_le hmin hmax
    rw [hvalue, BoundValue.display]
  · rw [boundValue_integer_of_ge (by omega), BoundValue.display]

/-- An integer is judged like its text, on both sides of the limit. -/
theorem coercesTo_boundValue_integer (hmin : -2 ^ 63 ≤ n) {type : SemanticType}
    (hpath : type ≠ .path) (henum : type ≠ .enum) (members : List String) :
    (Number.integer n).boundValue.coercesTo type members
      = textCoercesTo (toString n) type members := by
  by_cases hmax : n ≤ 2 ^ 63 - 1
  · obtain ⟨i, rfl, hvalue⟩ := boundValue_integer_of_le hmin hmax
    rw [hvalue]
    exact BoundValue.coercesTo_display_integer hpath henum i
  · rw [boundValue_integer_of_ge (by omega)]
    rfl

theorem keepsInteger_boundValue (hmin : -2 ^ 63 ≤ n) (hmax : n ≤ 2 ^ 64 - 1) :
    KeepsInteger (Number.integer n).boundValue n where
  eq_integer := boundValue_integer_of_le hmin
  eq_text := boundValue_integer_of_ge
  display_eq := display_boundValue_integer hmin
  coercesTo_integer members := by
    have hwide : isWide n = true := isWide_iff.mpr ⟨by omega, by omega⟩
    rw [coercesTo_boundValue_integer hmin (by decide) (by decide), textCoercesTo,
      isIntegerText_toString, hwide]
  coercesTo_duration_iff members := by
    rw [coercesTo_boundValue_integer hmin (by decide) (by decide), textCoercesTo,
      Duration.isSome_readMillis?_toString]
    exact ⟨And.left, fun h ↦ ⟨h, hmax⟩⟩

/-! ## Where it is bound -/

namespace Tree

variable {t leaf : Tree} {keys : List String} {value : BoundValue}

theorem mem_bindings_of_reaches (hreach : t.Reaches keys leaf)
    (hvalue : leaf.leafValue? = some value) (hne : joinedPath keys ≠ "") :
    (joinedPath keys, value) ∈ t.bindings := by
  have hleaf : leaf.isObject = false :=
    isObject_of_isLeaf (exists_leafValue?_iff.mp ⟨value, hvalue⟩)
  rw [bindings, leaves_eq, List.filterMap_map, List.mem_filterMap]
  exact ⟨(keys, leaf), mem_keyedLeaves_iff.mpr ⟨hreach, hleaf⟩,
    binding_eq_some_iff.mpr ⟨hne, rfl, hvalue⟩⟩

theorem get?_flatten_of_isLastLeaf (hsorted : t.EveryObject (·.Pairwise (·.1 < ·.1)))
    (hne : joinedPath keys ≠ "") (hlast : t.IsLastLeaf (joinedPath keys) keys value) :
    t.flatten.get? (joinedPath keys) = some value :=
  get?_flatten_eq_some_iff_lastBinds.mpr
    ((lastBinds_iff_exists_isLastLeaf hsorted).mpr ⟨hne, keys, hlast⟩)

/-- **Integers of documents keep their value.** An integer leaf below the root is bound to a value
that is shown as the decimal digits of the integer, is an integer, and is a duration exactly if it
is not negative, whether it is held as an integer or, from `2 ^ 63` on, as a text. That is what the
flattened tree shows at the path of the leaf, unless a leaf that comes later has the same path. -/
theorem keepsInteger_of_reaches (hreach : t.Reaches keys (.number (.integer n)))
    (hne : joinedPath keys ≠ "") (hmin : -2 ^ 63 ≤ n) (hmax : n ≤ 2 ^ 64 - 1) :
    ∃ value, KeepsInteger value n ∧ (joinedPath keys, value) ∈ t.bindings ∧
      (t.EveryObject (·.Pairwise (·.1 < ·.1)) →
        (∀ keys' ∈ t.leafPlaces, joinedPath keys' = joinedPath keys →
          keys' = keys ∨ ComesBefore keys' keys) →
        t.flatten.get? (joinedPath keys) = some value) := by
  have hvalue : (number (.integer n)).leafValue? = some (Number.integer n).boundValue := rfl
  refine ⟨_, keepsInteger_boundValue hmin hmax, mem_bindings_of_reaches hreach hvalue hne, ?_⟩
  intro hsorted hlast
  exact get?_flatten_of_isLastLeaf hsorted hne ⟨⟨_, hreach, hvalue⟩, rfl, hlast⟩

/-- The first integer behind the limit, at a path that an earlier leaf has as well. -/
theorem keepsInteger_of_reaches_shared :
    let t : Tree := .object
      [("a", .object [("b", .boolean true)]), ("a.b", .number (.integer (2 ^ 63)))]
    ∃ value, KeepsInteger value (2 ^ 63) ∧ t.flatten.get? "a.b" = some value := by
  intro t
  have hreach : t.Reaches ["a.b"] (.number (.integer (2 ^ 63))) :=
    .through (List.mem_cons_of_mem _ List.mem_cons_self) (.here _)
  have hsorted : t.EveryObject (·.Pairwise (·.1 < ·.1)) := by
    simp only [t, everyObject_object_iff, List.forall_mem_cons]
    exact ⟨by decide +kernel, ⟨by decide +kernel, everyObject_of_isObject_eq_false rfl, nofun⟩,
      everyObject_of_isObject_eq_false rfl, nofun⟩
  obtain ⟨value, hkeeps, -, hget⟩ :=
    keepsInteger_of_reaches hreach (by decide) (by decide) (by decide)
  refine ⟨value, hkeeps, hget hsorted fun keys' ⟨leaf, hreach', hleaf⟩ _ ↦ ?_⟩
  simp only [t] at hreach'
  cases hreach' with
  | here => cases hleaf
  | through mem rest =>
    rcases List.mem_cons.mp mem with heq | mem
    · cases heq
      exact .inr (.part (by decide +kernel) _ _)
    · cases List.mem_singleton.mp mem
      cases rest with
      | here => exact .inl rfl

end Tree

end PropertyCatalog.Document
