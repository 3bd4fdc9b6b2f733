import Mathlib.Data.List.Basic
import PropertyCatalog.Proofs.PropertiesText.Lines

/-!
# The values that properties text can bind

A line binds a key to a text, and both stand on the line between blanks that do not belong to them.
So neither begins or ends with a blank or holds a line feed, and the key has to be plain besides.
Nothing else is lost: values that meet this are bound by the text that has a line `key=value` for
each of them (`entries_write`). The image of reading is therefore what reading gives back after
writing (`exists_read_eq_iff`).
-/

namespace PropertyCatalog.PropertiesText

open Text

/-! ## Keys and values on a line -/

/-- A key that a line can bind. -/
structure IsLineKey (key : String) : Prop extends IsPlainKey key where
  /-- It is not empty. -/
  ne_empty : key ≠ ""
  /-- No blank stands at its ends. -/
  trim_eq : trim key = key
  /-- It stays on one line. -/
  no_newline : '\n' ∉ key.toList

/-- A text that a line can bind to a key. -/
structure IsLineValue (value : String) : Prop where
  /-- No blank stands at its ends. -/
  trim_eq : trim value = value
  /-- It stays on one line. -/
  no_newline : '\n' ∉ value.toList

/-- Every key and every value can be bound by a line. -/
def IsWritable (m : BoundValues) : Prop :=
  ∀ key value, m.get? key = some value →
    IsLineKey key ∧ ∃ s, value = .text s ∧ IsLineValue s

variable {line : List Char} {key value : String}

theorem isLineKey_of_entry?_eq_some (hline : '\n' ∉ line) (h : entry? line = some (key, value)) :
    IsLineKey key := by
  have hplain := isPlainKey_of_entry? h
  obtain ⟨-, as, bs, hparts, hne, rfl, -⟩ := entry?_eq_some_iff.mp h
  obtain ⟨⟨rest, hfront⟩, -⟩ := exists_eq_append_of_getD_cut? hparts
  refine { hplain with ne_empty := ?_, trim_eq := ?_, no_newline := ?_ }
  · rw [ne_eq, String.ofList_eq_empty_iff]
    exact hne
  · rw [trim, String.toList_ofList, trimmed_trimmed]
  · intro hmem
    rw [String.toList_ofList] at hmem
    refine hline (mem_of_mem_trimmed ?_)
    rw [hfront]
    exact List.mem_append_left rest (mem_of_mem_trimmed hmem)

theorem isLineValue_of_entry?_eq_some (hline : '\n' ∉ line) (h : entry? line = some (key, value)) :
    IsLineValue value := by
  obtain ⟨-, as, bs, hparts, -, -, rfl⟩ := entry?_eq_some_iff.mp h
  obtain ⟨front, hend⟩ := exists_append_eq_of_getD_cut? hparts
  constructor
  · rw [trim, String.toList_ofList, trimmed_trimmed]
  · intro hmem
    rw [String.toList_ofList] at hmem
    refine hline (mem_of_mem_trimmed ?_)
    rw [hend]
    exact List.mem_append_right front (mem_of_mem_trimmed hmem)

theorem isWritable_read (text : String) : IsWritable (read text) := by
  intro key value h
  obtain ⟨⟨_, s⟩, hentry, heq⟩ := List.mem_map.mp (TextMap.mem_of_get?_ofList h)
  obtain ⟨rfl, rfl⟩ := Prod.mk.inj heq
  obtain ⟨line, hmem, hline⟩ := List.mem_filterMap.mp hentry
  have hnewline := notMem_of_mem_splitOn hmem
  exact ⟨isLineKey_of_entry?_eq_some hnewline hline, s, rfl,
    isLineValue_of_entry?_eq_some hnewline hline⟩

/-! ## Writing -/

def writtenLine (key : String) (value : BoundValue) : String := key ++ "=" ++ value.display

/-- A line for each key, with line feeds between them. -/
def write (m : BoundValues) : String :=
  "\n".intercalate (m.entries.map fun e ↦ writtenLine e.1 e.2)

theorem toList_writtenLine (key s : String) :
    (writtenLine key (.text s)).toList = key.toList ++ '=' :: s.toList := by
  simp [writtenLine, BoundValue.display]

theorem entries_writtenLine (hkey : IsLineKey key) (hvalue : '\n' ∉ value.toList) :
    entries (writtenLine key (.text value)).toList = [(key, trim value)] := by
  have hnewline : '\n' ∉ (writtenLine key (.text value)).toList := by
    rw [toList_writtenLine, List.mem_append, List.mem_cons]
    rintro (hmem | heq | hmem)
    · exact hkey.no_newline hmem
    · exact absurd heq (by decide)
    · exact hvalue hmem
  have htrim : trimmed key.toList = key.toList := by rw [← toList_trim, hkey.trim_eq]
  have hne : key.toList ≠ [] := mt String.toList_eq_nil_iff.mp hkey.ne_empty
  have hentry := entry?_append_cons hkey.toIsPlainKey hne htrim value.toList
  rw [← trim] at hentry
  rw [entries_line hnewline, toList_writtenLine, List.filterMap_cons_some hentry,
    List.filterMap_nil]

/-- Texts on lines of their own are read back, up to the blanks around them. -/
theorem entries_write_trim {m : BoundValues}
    (h : ∀ key value, m.get? key = some value →
      IsLineKey key ∧ ∃ s, value = .text s ∧ '\n' ∉ s.toList) :
    entries (write m).toList = m.entries.map fun e ↦ (e.1, trim e.2.display) := by
  have hline : ∀ e ∈ m.entries,
      entries (writtenLine e.1 e.2).toList = [(e.1, trim e.2.display)] := by
    rintro ⟨key, value⟩ hmem
    obtain ⟨hkey, s, rfl, hvalue⟩ := h key value (TextMap.mem_entries_iff.mp hmem)
    exact entries_writtenLine hkey hvalue
  rw [write, String.toList_intercalate, List.map_map]
  calc entries (['\n'].intercalate (m.entries.map (String.toList ∘ fun e ↦ writtenLine e.1 e.2)))
      = m.entries.flatMap fun e ↦ entries (writtenLine e.1 e.2).toList := by
        rw [entries_intercalate, List.flatMap_map]
        rfl
    _ = m.entries.flatMap fun e ↦ [(e.1, trim e.2.display)] := List.flatMap_congr hline
    _ = m.entries.map fun e ↦ (e.1, trim e.2.display) := List.map_eq_flatMap.symm

theorem read_write_map_text {texts : TextMap String}
    (h : ∀ key s, texts.get? key = some s → IsLineKey key ∧ '\n' ∉ s.toList) :
    read (write (texts.map .text)) = texts.map fun s ↦ .text (trim s) := by
  have hlines : ∀ key value, (texts.map BoundValue.text).get? key = some value →
      IsLineKey key ∧ ∃ s, value = .text s ∧ '\n' ∉ s.toList := by
    intro key value hget
    rw [TextMap.get?_map, Option.map_eq_some_iff] at hget
    obtain ⟨s, hs, rfl⟩ := hget
    exact ⟨(h key s hs).1, s, rfl, (h key s hs).2⟩
  have hentries :
      (entries (write (texts.map .text)).toList).map (fun e ↦ (e.1, BoundValue.text e.2))
        = (texts.map fun s ↦ BoundValue.text (trim s)).entries := by
    rw [entries_write_trim hlines, TextMap.map, TextMap.map, List.map_map, List.map_map]
    rfl
  rw [← TextMap.ofList_entries (texts.map fun s ↦ BoundValue.text (trim s)), ← hentries]
  rfl

theorem entries_write {m : BoundValues} (h : IsWritable m) :
    entries (write m).toList = m.entries.map fun e ↦ (e.1, e.2.display) := by
  have hlines : ∀ key value, m.get? key = some value →
      IsLineKey key ∧ ∃ s, value = .text s ∧ '\n' ∉ s.toList := by
    intro key value hget
    obtain ⟨hkey, s, rfl, hvalue⟩ := h key value hget
    exact ⟨hkey, s, rfl, hvalue.no_newline⟩
  rw [entries_write_trim hlines]
  refine List.map_congr_left ?_
  rintro ⟨key, value⟩ hmem
  obtain ⟨-, s, rfl, hvalue⟩ := h key value (TextMap.mem_entries_iff.mp hmem)
  exact congrArg (Prod.mk key) hvalue.trim_eq

/-- Only texts can be written, so nothing is lost on the way back. -/
theorem ofList_display {m : BoundValues} (h : IsWritable m) :
    TextMap.ofList (m.entries.map fun e ↦ (e.1, BoundValue.text e.2.display)) = m := by
  have hsame : ∀ e ∈ m.entries, (e.1, BoundValue.text e.2.display) = e := by
    rintro ⟨key, value⟩ hmem
    obtain ⟨-, s, rfl, -⟩ := h key value (TextMap.mem_entries_iff.mp hmem)
    rfl
  rw [List.map_congr_left hsame, List.map_id', TextMap.ofList_entries]

theorem read_of_entries_eq {text : String} {m : BoundValues} (h : IsWritable m)
    (hentries : entries text.toList = m.entries.map fun e ↦ (e.1, e.2.display)) :
    read text = m := by
  rw [read, hentries, List.map_map]
  exact ofList_display h

theorem entries_append_newline (text : List Char) : entries (text ++ ['\n']) = entries text := by
  rw [entries_append_cons, entries_line List.not_mem_nil]
  exact List.append_nil _

/-- **What properties text can bind.** Values are what some text binds exactly if every key and
value can stand on a line, and exactly then they are read back from the text with a line for each of
them, whether or not a line feed ends the last line. -/
theorem exists_read_eq_iff (m : BoundValues) :
    ((∃ text, read text = m) ↔ IsWritable m) ∧
      (read (write m) = m ↔ IsWritable m) ∧ (read (write m ++ "\n") = m ↔ IsWritable m) := by
  have himage : ∀ text, read text = m → IsWritable m := by
    rintro text rfl
    exact isWritable_read text
  have hwrite : IsWritable m → read (write m) = m := fun h ↦
    read_of_entries_eq h (entries_write h)
  have hended : IsWritable m → read (write m ++ "\n") = m := fun h ↦ by
    refine read_of_entries_eq h ?_
    rw [String.toList_append]
    exact (entries_append_newline _).trans (entries_write h)
  refine ⟨⟨?_, fun h ↦ ⟨write m, hwrite h⟩⟩, ⟨himage _, hwrite⟩, ⟨himage _, hended⟩⟩
  rintro ⟨text, hread⟩
  exact himage text hread

end PropertyCatalog.PropertiesText
