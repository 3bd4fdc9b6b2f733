import PropertyCatalog.Validation

/-!
# Which properties are bound

A property counts as bound when a value stands at its path, or, if it refers to a group, when some
value stands beneath its path. The second question is answered by one step into the sorted keys.
That is enough because the texts with a common beginning are neighbours: what lies between two of
them begins in the same way (`isPrefix_of_not_lt_of_not_append_lt`).
-/

namespace PropertyCatalog

/-! ## Neighbours in the order of texts -/

/-- What lies between a text and one that begins with it begins with it too. -/
theorem isPrefix_of_not_lt_of_not_append_lt {a b r : List Char} (hba : ¬b < a)
    (hrb : ¬a ++ r < b) : a <+: b := by
  induction a generalizing b with
  | nil => exact List.nil_prefix
  | cons x a ih =>
    cases b with
    | nil => exact absurd List.Lex.nil hba
    | cons y b =>
      rw [List.cons_lt_cons_iff] at hba
      rw [List.cons_append, List.cons_lt_cons_iff] at hrb
      -- the first characters are ordered both ways, so they are equal
      have hyx : ¬y < x := fun h ↦ hba (Or.inl h)
      have hxy : ¬x < y := fun h ↦ hrb (Or.inl h)
      obtain rfl : x = y := Char.le_antisymm (Char.not_lt.mp hyx) (Char.not_lt.mp hxy)
      have hba' : ¬b < a := fun h ↦ hba (Or.inr ⟨rfl, h⟩)
      have hrb' : ¬a ++ r < b := fun h ↦ hrb (Or.inr ⟨rfl, h⟩)
      exact List.cons_prefix_cons.mpr ⟨rfl, ih hba' hrb'⟩

theorem not_append_lt_self (a r : List Char) : ¬a ++ r < a := by
  induction a with
  | nil => exact List.not_lt_nil r
  | cons x a ih =>
    rw [List.cons_append, List.cons_lt_cons_iff]
    rintro (h | ⟨-, h⟩)
    · exact Char.lt_irrefl x h
    · exact ih h

theorem le_of_isPrefix {s t : String} (h : s.toList <+: t.toList) : s ≤ t := by
  obtain ⟨r, hr⟩ := h
  have hnot : ¬t.toList < s.toList := hr ▸ not_append_lt_self s.toList r
  exact hnot

theorem isPrefix_of_le_of_le {s t u : String} (hst : s ≤ t) (htu : t ≤ u)
    (h : s.toList <+: u.toList) : s.toList <+: t.toList := by
  obtain ⟨r, hr⟩ := h
  have hnot : ¬s.toList ++ r < t.toList := hr.symm ▸ htu
  exact isPrefix_of_not_lt_of_not_append_lt hst hnot

/-! ## The first key from a text on -/

namespace TextMap

variable {α : Type} {m : TextMap α} {key : String}

theorem firstFrom?_eq_none_iff : m.firstFrom? key = none ↔ ∀ e ∈ m.entries, ¬key ≤ e.1 := by
  rw [firstFrom?, List.find?_eq_none]
  simp only [decide_eq_true_eq]

theorem le_of_firstFrom?_eq_some {d e : String × α} (h : m.firstFrom? key = some d)
    (he : e ∈ m.entries) (hkey : key ≤ e.1) : d.1 ≤ e.1 := by
  obtain ⟨-, before, after, hentries, hbefore⟩ := List.find?_eq_some_iff_append.mp h
  have hincreasing := m.increasing
  rw [hentries] at he hincreasing
  rcases List.mem_append.mp he with he | he
  · have hnot := hbefore e he
    simp [hkey] at hnot
  · rcases List.mem_cons.mp he with rfl | he
    · exact String.le_refl _
    · have hlt := (List.pairwise_cons.mp (List.pairwise_append.mp hincreasing).2.1).1 e he
      exact String.not_lt.mp (String.lt_asymm hlt)

end TextMap

/-! ## Bound properties -/

theorem PropertyPath.isBeneath_iff {path inner : String} :
    isBeneath path inner = true ↔ (stem path).toList <+: inner.toList := List.isPrefixOf_iff_prefix

/-- A value stands at the path of the property, or the property refers to a group and a value stands
beneath its path. -/
def Property.HasValue (p : Property) (values : BoundValues) : Prop :=
  (∃ value, values.get? p.path = some value) ∨
    p.semanticType = .group ∧
      ∃ path value, values.get? path = some value ∧ (p.path ++ ".").toList <+: path.toList

/-- The first key from the stem on lies beneath the path as soon as any key does. -/
theorem any_firstFrom?_isBeneath_iff {values : BoundValues} {path : String} :
    ((values.firstFrom? (PropertyPath.stem path)).any (PropertyPath.isBeneath path ·.1)) = true ↔
      ∃ inner value, values.get? inner = some value ∧
        (PropertyPath.stem path).toList <+: inner.toList := by
  constructor
  · intro h
    obtain ⟨⟨inner, value⟩, hfirst, hbeneath⟩ := (Option.any_eq_true _ _).mp h
    have hmem : (inner, value) ∈ values.entries := List.mem_of_find?_eq_some hfirst
    exact ⟨inner, value, TextMap.mem_entries_iff.mp hmem,
      PropertyPath.isBeneath_iff.mp hbeneath⟩
  · rintro ⟨inner, value, hget, hprefix⟩
    have hmem : (inner, value) ∈ values.entries := TextMap.mem_entries_iff.mpr hget
    -- the first key from the stem on lies between the stem and the key that begins with it
    have hstem : PropertyPath.stem path ≤ inner := le_of_isPrefix hprefix
    cases hfirst : values.firstFrom? (PropertyPath.stem path) with
    | none => exact absurd hstem (TextMap.firstFrom?_eq_none_iff.mp hfirst _ hmem)
    | some d =>
      have hd : PropertyPath.stem path ≤ d.1 := by simpa using List.find?_some hfirst
      have hle : d.1 ≤ inner := TextMap.le_of_firstFrom?_eq_some hfirst hmem hstem
      exact PropertyPath.isBeneath_iff.mpr (isPrefix_of_le_of_le hd hle hprefix)

theorem Property.isBound_iff {p : Property} {values : BoundValues} :
    p.isBound values = true ↔ p.HasValue values := by
  rw [isBound, Bool.or_eq_true, Bool.and_eq_true, TextMap.contains_iff, decide_eq_true_eq,
    any_firstFrom?_isBeneath_iff]
  rfl

/-- **One key decides.** A property is bound exactly if its path is a key, or if it refers to a
group and any key at all begins with its path and a dot. -/
theorem Property.isBound_iff_exists_mem_keys (p : Property) (values : BoundValues) :
    p.isBound values = true ↔
      p.path ∈ values.keys ∨
        p.semanticType = .group ∧ ∃ key ∈ values.keys, (p.path ++ ".").toList <+: key.toList := by
  have hbeneath :
      (∃ key value, values.get? key = some value ∧ (p.path ++ ".").toList <+: key.toList) ↔
        ∃ key ∈ values.keys, (p.path ++ ".").toList <+: key.toList := by
    simp only [TextMap.mem_keys_iff, exists_and_right]
  rw [isBound_iff, HasValue, TextMap.mem_keys_iff, hbeneath]

/-- The keys on both sides of those beneath `a.b` do not begin with its path and a dot. -/
example :
    let p : Property := ⟨"a.b", .group, none, true, "a", none, [], some "b"⟩
    p.isBound (.ofList [("a.b-x", .integer 1), ("a.b0", .integer 2)]) = false ∧
      p.isBound (.ofList [("a.b-x", .integer 1), ("a.b.c", .integer 3), ("a.b0", .integer 2)])
        = true := by
  decide +kernel

end PropertyCatalog
