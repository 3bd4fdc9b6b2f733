import PropertyCatalog.Properties

/-!
# The lines of properties text

A text says what its lines say. Since the empty line says nothing, it does not matter whether a line
feed ends a line or separates it from the next (`entries_flatMap_line`, `entries_intercalate`).

A line can give any value, up to the blanks around it, but not every key: what ends a key cannot
stand in one, and a line that begins like a comment is one. `IsPlainKey` is what remains.
-/

namespace PropertyCatalog.PropertiesText

open Text

/-! ## Texts -/

theorem entries_append_cons (as bs : List Char) :
    entries (as ++ '\n' :: bs) = entries as ++ entries bs := by
  rw [entries, List.splitOn_append_cons_self, List.filterMap_append, entries, entries]

theorem entries_line {line : List Char} (h : '\n' ∉ line) :
    entries line = [line].filterMap entry? := by
  rw [entries, List.splitOn_eq_singleton h]

theorem entries_flatMap_line {lines : List (List Char)} (h : ∀ line ∈ lines, '\n' ∉ line) :
    entries (lines.flatMap (· ++ ['\n'])) = lines.filterMap entry? := by
  induction lines with
  | nil => rfl
  | cons line lines ih =>
    obtain ⟨hline, hlines⟩ := List.forall_mem_cons.mp h
    rw [List.flatMap_cons, List.append_assoc, List.singleton_append, entries_append_cons,
      ih hlines, entries_line hline, ← List.filterMap_append, List.singleton_append]

theorem entries_intercalate (texts : List (List Char)) :
    entries (['\n'].intercalate texts) = texts.flatMap entries := by
  induction texts with
  | nil => rfl
  | cons text texts ih =>
    cases texts with
    | nil => rw [List.intercalate_singleton, List.flatMap_cons, List.flatMap_nil, List.append_nil]
    | cons next texts =>
      rw [List.intercalate_cons_cons, List.append_assoc, List.singleton_append,
        entries_append_cons, ih, ← List.flatMap_cons]

/-! ## Lines -/

/-- A key that a line can give: nothing in it ends a key, and it does not begin like a comment. -/
structure IsPlainKey (key : String) : Prop where
  /-- No equals sign stands in it. -/
  no_equals : '=' ∉ key.toList
  /-- No colon stands in it. -/
  no_colon : ':' ∉ key.toList
  /-- It does not begin with a hash. -/
  no_hash : key.toList.head? ≠ some '#'
  /-- It does not begin with an exclamation mark. -/
  no_exclamation : key.toList.head? ≠ some '!'

instance : DecidablePred IsPlainKey := fun key ↦
  decidable_of_iff
    (('=' ∉ key.toList ∧ ':' ∉ key.toList) ∧
      key.toList.head? ≠ some '#' ∧ key.toList.head? ≠ some '!')
    ⟨fun h ↦ ⟨h.1.1, h.1.2, h.2.1, h.2.2⟩,
      fun h ↦ ⟨⟨h.no_equals, h.no_colon⟩, h.no_hash, h.no_exclamation⟩⟩

theorem IsPlainKey.endsKey_eq_false {key : String} (h : IsPlainKey key) :
    ∀ c ∈ key.toList, endsKey c = false := by
  intro c hc
  rw [endsKey, Bool.or_eq_false_iff, decide_eq_false_iff_not, decide_eq_false_iff_not]
  constructor
  · rintro rfl
    exact h.no_equals hc
  · rintro rfl
    exact h.no_colon hc

theorem entry?_hash (cs : List Char) : entry? ('#' :: cs) = none := by
  rw [ entry?, trimmed_cons_of_not_isBlank (by decide)]
  rfl

/-- What a line gives: the two sides of the first character that ends a key, without the blanks
around them, unless the line is a comment or the key is empty. -/
theorem entry?_eq_some_iff {line : List Char} {key value : String} :
    entry? line = some (key, value) ↔
      isComment (trimmed line) = false ∧ ∃ as bs,
        (cut? endsKey (trimmed line)).getD (trimmed line, []) = (as, bs) ∧
          trimmed as ≠ [] ∧ key = String.ofList (trimmed as) ∧
            value = String.ofList (trimmed bs) := by
  rw [ entry?]
  cases isComment (trimmed line) with
  | true => simp
  | false =>
    obtain ⟨as, bs⟩ := (cut? endsKey (trimmed line)).getD (trimmed line, [])
    simp only [Bool.false_eq_true, if_false, true_and, Prod.mk.injEq, List.isEmpty_iff,
      Option.ite_none_left_eq_some, Option.some_inj]
    constructor
    · rintro ⟨hne, rfl, rfl⟩
      exact ⟨as, bs, ⟨rfl, rfl⟩, hne, rfl, rfl⟩
    · rintro ⟨_, _, ⟨rfl, rfl⟩, hne, rfl, rfl⟩
      exact ⟨hne, rfl, rfl⟩

example : entry? " a : b = c ".toList = some ("a", "b = c") := by decide

/-- A line of a plain key and a value is read back, up to the blanks around the value. -/
theorem entry?_append_cons {key : String} (h : IsPlainKey key) (hne : key.toList ≠ [])
    (htrim : trimmed key.toList = key.toList) (value : List Char) :
    entry? (key.toList ++ '=' :: value) = some (key, String.ofList (trimmed value)) := by
  obtain ⟨c, cs, hkey⟩ := List.exists_cons_of_ne_nil hne
  have hc : isBlank c = false := not_isBlank_of_trimmed_eq_cons (htrim.trans hkey)
  -- neither the first character of the key nor the equals sign is blank
  have hline : trimmed (key.toList ++ '=' :: value)
      = key.toList ++ '=' :: dropFinalBlanks value := by
    rw [hkey, List.cons_append, trimmed_cons_of_not_isBlank hc,
      dropFinalBlanks_append_cons (by decide), List.cons_append]
  have hcomment : isComment (key.toList ++ '=' :: dropFinalBlanks value) = false := by
    have hhash := h.no_hash
    have hexclamation := h.no_exclamation
    rw [hkey, List.head?_cons, ne_eq, Option.some_inj] at hhash hexclamation
    rw [hkey, List.cons_append, isComment, Bool.or_eq_false_iff, decide_eq_false_iff_not,
      decide_eq_false_iff_not]
    exact ⟨hhash, hexclamation⟩
  have hcut : cut? endsKey (key.toList ++ '=' :: dropFinalBlanks value)
      = some (key.toList, dropFinalBlanks value) :=
    cut?_eq_some_iff.mpr ⟨'=', rfl, rfl, h.endsKey_eq_false⟩
  rw [entry?_eq_some_iff, hline, hcut]
  refine ⟨hcomment, key.toList, dropFinalBlanks value, rfl, ?_, ?_, ?_⟩
  · rw [htrim]
    exact hne
  · rw [htrim, String.ofList_toList]
  · rw [trimmed_dropFinalBlanks]

/-- The part of a line that is taken for the key is where the line begins, and nothing in it ends a
key. -/
theorem exists_eq_append_of_getD_cut? {line as bs : List Char}
    (h : (cut? endsKey line).getD (line, []) = (as, bs)) :
    (∃ rest, line = as ++ rest) ∧ ∀ a ∈ as, endsKey a = false := by
  cases hcut : cut? endsKey line with
  | none =>
    rw [hcut, Option.getD_none, Prod.mk.injEq] at h
    obtain ⟨rfl, -⟩ := h
    exact ⟨⟨[], (List.append_nil line).symm⟩, cut?_eq_none_iff.mp hcut⟩
  | some parts =>
    rw [hcut, Option.getD_some] at h
    obtain ⟨d, hline, -, has⟩ := cut?_eq_some_iff.mp (h ▸ hcut)
    exact ⟨⟨d :: bs, hline⟩, has⟩

theorem exists_append_eq_of_getD_cut? {line as bs : List Char}
    (h : (cut? endsKey line).getD (line, []) = (as, bs)) : ∃ front, line = front ++ bs := by
  cases hcut : cut? endsKey line with
  | none =>
    rw [hcut, Option.getD_none, Prod.mk.injEq] at h
    obtain ⟨-, rfl⟩ := h
    exact ⟨line, (List.append_nil line).symm⟩
  | some parts =>
    rw [hcut, Option.getD_some] at h
    obtain ⟨d, hline, -, -⟩ := cut?_eq_some_iff.mp (h ▸ hcut)
    exact ⟨as ++ [d], by rw [hline, List.append_assoc, List.singleton_append]⟩

/-- Every key that a line gives is plain. -/
theorem isPlainKey_of_entry? {line : List Char} {key value : String}
    (h : entry? line = some (key, value)) : IsPlainKey key := by
  obtain ⟨hcomment, as, bs, hparts, hne, rfl, -⟩ := entry?_eq_some_iff.mp h
  obtain ⟨⟨rest, hline⟩, has⟩ := exists_eq_append_of_getD_cut? hparts
  cases as with
  | nil => exact absurd rfl hne
  | cons c cs =>
    -- the key begins where the line does, and the line does not begin like a comment
    have hc : isBlank c = false := not_isBlank_of_trimmed_eq_cons hline
    have hhead : (trimmed (c :: cs)).head? = some c := by
      rw [trimmed_cons_of_not_isBlank hc, List.head?_cons]
    rw [hline, List.cons_append, isComment, Bool.or_eq_false_iff, decide_eq_false_iff_not,
      decide_eq_false_iff_not] at hcomment
    have hnot : ∀ d, isBlank d = false → endsKey d = true → d ∉ trimmed (c :: cs) := by
      intro d hd hends hmem
      rw [has d ((mem_trimmed_iff hd).mp hmem)] at hends
      exact Bool.false_ne_true hends
    constructor <;> rw [String.toList_ofList]
    · exact hnot '=' (by decide) (by decide)
    · exact hnot ':' (by decide) (by decide)
    · rw [hhead, ne_eq, Option.some_inj]
      exact hcomment.1
    · rw [hhead, ne_eq, Option.some_inj]
      exact hcomment.2

theorem isPlainKey_of_get?_read {text key : String} {value : BoundValue}
    (h : (read text).get? key = some value) : IsPlainKey key := by
  obtain ⟨⟨_, _⟩, hentry, hvalue⟩ := List.mem_map.mp (TextMap.mem_of_get?_ofList h)
  obtain ⟨line, -, hline⟩ := List.mem_filterMap.mp hentry
  obtain ⟨rfl, -⟩ := Prod.mk.inj hvalue
  exact isPlainKey_of_entry? hline

end PropertyCatalog.PropertiesText
