import PropertyCatalog.Text.Blank

/-!
# Property paths

A property path is a text whose segments stand between dots. Prefixes of groups and names of fields
have the same shape, so a path made of a well-formed prefix and a well-formed name is well formed.
-/

namespace PropertyCatalog.PropertyPath

open Text

/-- The texts between the dots; there is always at least one. -/
def segments (path : List Char) : List (List Char) := path.splitOn '.'

/-- What stands after the last dot, or the whole text where there is none. -/
def lastSegment (path : List Char) : List Char :=
  (path.reverse.takeWhile (· ≠ '.')).reverse

def name (path : String) : String := String.ofList (lastSegment path.toList)

/-- A segment that may stand in a path: it is not empty and holds no blank. -/
def isSegment (cs : List Char) : Bool := !cs.isEmpty && !cs.any isBlank

/-- Every segment may stand in a path. The empty text has an empty segment, so it is refused. -/
def isDotted (cs : List Char) : Bool := (segments cs).all isSegment

/-- The path of a name below its parent. -/
def below (parent name : String) : String := parent ++ "." ++ name

/-- The text that every path beneath the given one begins with. -/
def stem (path : String) : String := path ++ "."

/-- The second path lies beneath the first. -/
def isBeneath (path inner : String) : Bool := (stem path).toList.isPrefixOf inner.toList

/-! ## Well-formed paths -/

theorem isDotted_append_cons_dot (as bs : List Char) :
    isDotted (as ++ '.' :: bs) = (isDotted as && isDotted bs) := by
  rw [isDotted, segments, List.splitOn_append_cons_self, List.all_append, isDotted, segments,
    isDotted, segments]

theorem isDotted_below (parent name : String) :
    isDotted (below parent name).toList = (isDotted parent.toList && isDotted name.toList) := by
  have hbelow : (below parent name).toList = parent.toList ++ '.' :: name.toList := by
    simp [below]
  rw [hbelow, isDotted_append_cons_dot]

theorem ne_nil_of_isDotted {path : List Char} (h : isDotted path = true) : path ≠ [] := by
  rintro rfl
  exact absurd h (by decide)

/-- The dots apart, a path is made of the characters of its segments. -/
theorem eq_dot_or_mem_segment {c : Char} {path : List Char} (h : c ∈ path) :
    c = '.' ∨ ∃ s ∈ segments path, c ∈ s := by
  induction path with
  | nil => cases h
  | cons d cs ih =>
    rw [segments, List.splitOn_cons_eq_if_modifyHead]
    by_cases hd : d = '.'
    · rw [if_pos (beq_iff_eq.mpr hd)]
      rcases List.mem_cons.mp h with rfl | h
      · exact .inl hd
      · exact (ih h).imp_right fun ⟨s, hs, hc⟩ ↦ ⟨s, List.mem_cons_of_mem _ hs, hc⟩
    · -- any other character joins the first segment of the rest
      rw [if_neg fun heq ↦ hd (beq_iff_eq.mp heq)]
      rw [segments] at ih
      cases hsplit : cs.splitOn '.' with
      | nil => exact absurd hsplit (List.splitOn_ne_nil '.' cs)
      | cons t ts =>
        rw [hsplit] at ih
        rw [List.modifyHead_cons]
        rcases List.mem_cons.mp h with rfl | h
        · exact .inr ⟨c :: t, List.mem_cons_self, List.mem_cons_self⟩
        · refine (ih h).imp_right fun ⟨s, hs, hc⟩ ↦ ?_
          rcases List.mem_cons.mp hs with rfl | hs
          · exact ⟨d :: s, List.mem_cons_self, List.mem_cons_of_mem d hc⟩
          · exact ⟨s, List.mem_cons_of_mem _ hs, hc⟩

theorem mem_of_mem_segment {c : Char} {s path : List Char} (hs : s ∈ segments path) (hc : c ∈ s) :
    c ∈ path := by
  induction path generalizing s with
  | nil =>
    obtain rfl := List.mem_singleton.mp hs
    exact hc
  | cons d cs ih =>
    rw [segments, List.splitOn_cons_eq_if_modifyHead] at hs
    by_cases hd : d = '.'
    · rw [if_pos (beq_iff_eq.mpr hd)] at hs
      rcases List.mem_cons.mp hs with rfl | hs
      · cases hc
      · exact List.mem_cons_of_mem d (ih hs hc)
    · rw [if_neg fun heq ↦ hd (beq_iff_eq.mp heq)] at hs
      rw [segments] at ih
      cases hsplit : cs.splitOn '.' with
      | nil => exact absurd hsplit (List.splitOn_ne_nil '.' cs)
      | cons t ts =>
        rw [hsplit] at ih hs
        rw [List.modifyHead_cons] at hs
        rcases List.mem_cons.mp hs with rfl | hs
        · rcases List.mem_cons.mp hc with rfl | hc
          · exact List.mem_cons_self
          · exact List.mem_cons_of_mem d (ih List.mem_cons_self hc)
        · exact List.mem_cons_of_mem d (ih (List.mem_cons_of_mem t hs) hc)

theorem not_isBlank_of_isDotted {path : List Char} (h : isDotted path = true) :
    ∀ c ∈ path, isBlank c = false := by
  intro c hc
  rcases eq_dot_or_mem_segment hc with rfl | ⟨s, hs, hcs⟩
  · decide
  · have hsegment := List.all_eq_true.mp h s hs
    rw [isSegment, Bool.and_eq_true] at hsegment
    have hblanks : s.any isBlank = false := Bool.not_eq_true' _ ▸ hsegment.2
    exact Bool.not_eq_true _ ▸ List.any_eq_false.mp hblanks c hcs

/-- What a dotted path looks like as a whole. -/
structure WellShaped (path : List Char) : Prop where
  /-- There is something. -/
  ne_nil : path ≠ []
  /-- Nothing in it is blank. -/
  not_isBlank : ∀ c ∈ path, isBlank c = false
  /-- Dots stand neither next to each other nor at an end. -/
  segment_ne_nil : ∀ s ∈ segments path, s ≠ []

theorem isDotted_iff {path : List Char} : isDotted path = true ↔ WellShaped path := by
  constructor
  · intro h
    refine ⟨ne_nil_of_isDotted h, not_isBlank_of_isDotted h, fun s hs ↦ ?_⟩
    rintro rfl
    exact absurd (List.all_eq_true.mp h [] hs) (by decide)
  · intro h
    refine List.all_eq_true.mpr fun s hs ↦ ?_
    have hblanks : s.any isBlank = false := by
      refine List.any_eq_false.mpr fun c hc ↦ ?_
      rw [h.not_isBlank c (mem_of_mem_segment hs hc)]
      exact Bool.false_ne_true
    rw [isSegment, hblanks, Bool.not_false, Bool.and_true, Bool.not_eq_true',
      List.isEmpty_eq_false_iff]
    exact h.segment_ne_nil s hs

end PropertyCatalog.PropertyPath
