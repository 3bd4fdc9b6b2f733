import Mathlib.Data.List.Basic
import PropertyCatalog.Proofs.PropertiesText.Lines

/-!
# Reading line by line

Properties text is read a line at a time, and each line that says something puts one entry into the
values (`putLine`). A line ends with a line feed or with a carriage return and a line feed, and the
last one may end with the text (`lines`). When two texts are joined by a line feed, the lines of the
first are not simply followed by those of the second: a carriage return at the end of the first text
belongs to its last line alone, but to a line break once the texts are joined. For what is bound
this makes no difference, because no line begins or ends with a blank as far as it says anything
(`entries_eq_filterMap_lines`). So the lines may as well be the pieces between line feeds, and those
of joined texts do follow each other.
-/

namespace PropertyCatalog.PropertiesText

open Text

/-! ## Lines and their ends -/

/-- What stands on a line before a carriage return at its end. -/
def withoutReturn (line : List Char) : List Char := (before? '\r' line).getD line

/-- The lines of a text. A line feed ends a line, together with a carriage return before it; behind
the last line feed there is a line only if anything stands there. -/
def lines (text : List Char) : List (List Char) :=
  let pieces := text.splitOn '\n'
  pieces.dropLast.map withoutReturn ++ pieces.getLast?.toList.filter (· ≠ [])

theorem entry?_concat_return (line : List Char) : entry? (line ++ ['\r']) = entry? line := by
  have htrim : trimmed (line ++ ['\r']) = trimmed line :=
    trimmed_append_of_isBlank_right (List.forall_mem_singleton.mpr (by decide)) line
  unfold entry?
  rw [htrim]

theorem entry?_withoutReturn (line : List Char) : entry? (withoutReturn line) = entry? line := by
  rw [withoutReturn]
  cases h : before? '\r' line with
  | none => rfl
  | some front =>
    rw [before?_eq_some_iff.mp h, Option.getD_some, entry?_concat_return]

/-- An empty line says nothing, so it may be left out. -/
theorem filterMap_entry?_filter (ls : List (List Char)) :
    (ls.filter (· ≠ [])).filterMap entry? = ls.filterMap entry? := by
  rw [List.filterMap_filter]
  refine List.filterMap_congr fun line _ ↦ ?_
  by_cases h : line = []
  · rw [h]
    rfl
  · rw [if_pos (decide_eq_true h)]

theorem entries_eq_filterMap_lines (text : List Char) :
    entries text = (lines text).filterMap entry? := by
  obtain ⟨front, last, hpieces⟩ :=
    (List.eq_nil_or_concat _).resolve_left (List.splitOn_ne_nil '\n' text)
  rw [List.concat_eq_append] at hpieces
  have hlines : lines text = front.map withoutReturn ++ [last].filter (· ≠ []) := by
    rw [lines, hpieces, List.dropLast_concat, List.getLast?_concat]
    rfl
  rw [hlines, List.filterMap_append, List.filterMap_map, filterMap_entry?_filter, entries, hpieces,
    List.filterMap_append]
  congr 1
  exact (List.filterMap_congr fun line _ ↦ entry?_withoutReturn line).symm

/-! ## One line after the other -/

/-- The values after one more line. -/
def putLine (m : BoundValues) (line : List Char) : BoundValues :=
  match entry? line with
  | none => m
  | some (key, value) => m.insert key (.text value)

theorem get?_foldl_putLine (ls : List (List Char)) (m : BoundValues) (key : String) :
    (ls.foldl putLine m).get? key
      = ((TextMap.ofList ((ls.filterMap entry?).map fun (key, value) ↦
          (key, BoundValue.text value))).get? key).or (m.get? key) := by
  induction ls generalizing m with
  | nil => rfl
  | cons line ls ih =>
    rw [List.foldl_cons, ih, putLine]
    cases hline : entry? line with
    | none => rw [List.filterMap_cons_none hline]
    | some e =>
      rw [List.filterMap_cons_some hline, List.map_cons, TextMap.get?_ofList_cons,
        TextMap.get?_insert, Option.or_assoc]
      congr 1
      by_cases hkey : key = e.1 <;> simp [hkey]

/-- Reading a text line by line lays what it binds over what was bound before. -/
theorem foldl_putLine_lines (m : BoundValues) (text : String) :
    (lines text.toList).foldl putLine m = m.extend (read text) := by
  refine TextMap.ext_get? fun key ↦ ?_
  rw [get?_foldl_putLine, ← entries_eq_filterMap_lines, TextMap.get?_extend, read]

/-! ## Joined texts -/

theorem entries_line_concat_return {line : List Char} (h : '\n' ∉ line) :
    entries (line ++ ['\r']) = entries line := by
  have hreturn : '\n' ∉ line ++ ['\r'] := by
    rw [List.mem_append, List.mem_singleton, not_or]
    exact ⟨h, by decide⟩
  rw [entries_line hreturn, entries_line h, List.filterMap_cons, List.filterMap_cons,
    entry?_concat_return]

/-- A carriage return at the end of a text is a blank at the end of its last line. -/
theorem entries_concat_return (text : List Char) : entries (text ++ ['\r']) = entries text := by
  by_cases h : '\n' ∈ text
  · -- the last line is what stands behind the last line feed
    obtain ⟨back, front, hreverse, hback⟩ :=
      List.eq_append_cons_of_mem (List.mem_reverse.mpr h)
    have htext : text = front.reverse ++ '\n' :: back.reverse := by
      rw [← List.reverse_inj, hreverse]
      simp
    have hlast : '\n' ∉ back.reverse := mt List.mem_reverse.mp hback
    rw [htext, List.append_assoc, List.cons_append, entries_append_cons, entries_append_cons,
      entries_line_concat_return hlast]
  · exact entries_line_concat_return h

/-- What the texts bind together, if a line feed stands between them. -/
theorem read_of_entries_append {text a b : String}
    (h : entries text.toList = entries a.toList ++ entries b.toList) :
    read text = (read a).extend (read b) := by
  refine TextMap.ext_get? fun key ↦ ?_
  rw [TextMap.get?_extend, read, h, List.map_append, TextMap.get?_ofList_append]
  rfl

/-- **Properties text composes.** Joined by a line feed, two texts bind what the first one binds,
extended by what the second one binds, whose values win. It does not matter whether the first text
ends with a carriage return, which would then belong to the line break, and the same comes out if
the lines of the joined text are read one after the other into any values. -/
theorem read_append_newline (a b : String) :
    read (a ++ "\n" ++ b) = (read a).extend (read b) ∧
      read (a ++ "\r\n" ++ b) = (read a).extend (read b) ∧
        ∀ m, (lines (a ++ "\n" ++ b).toList).foldl putLine m
          = (m.extend (read a)).extend (read b) := by
  have hjoined : read (a ++ "\n" ++ b) = (read a).extend (read b) := by
    refine read_of_entries_append ?_
    rw [String.toList_append, String.toList_append, List.append_assoc]
    exact entries_append_cons _ _
  have hreturn : read (a ++ "\r\n" ++ b) = (read a).extend (read b) := by
    refine read_of_entries_append ?_
    rw [String.toList_append, String.toList_append, List.append_assoc]
    have hsplit : a.toList ++ ("\r\n".toList ++ b.toList)
        = (a.toList ++ ['\r']) ++ '\n' :: b.toList := by simp
    rw [hsplit, entries_append_cons, entries_concat_return]
  refine ⟨hjoined, hreturn, fun m ↦ ?_⟩
  rw [foldl_putLine_lines, hjoined]
  refine TextMap.ext_get? fun key ↦ ?_
  simp only [TextMap.get?_extend, Option.or_assoc]

end PropertyCatalog.PropertiesText
