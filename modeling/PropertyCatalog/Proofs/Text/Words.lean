import Mathlib.Data.List.Basic
import PropertyCatalog.Text.Blank
import PropertyCatalog.Text.LetterCase

/-!
# Words

A word is a text that is not empty and holds no blank. Changing case makes words of words: the
tables of case mappings lead to no blank (`Shift.avoidsBlanks`), and no character is mapped to
nothing.

A text whose ends are not blank (`HasPlainEnds`) is its own trimmed form. Words have such ends, and
whatever stands between two texts of this kind, they keep the ends of the whole.
-/

namespace PropertyCatalog.Text

/-! ## Case mappings make no blanks -/

theorem toNat_ofNat_eq_or (n : Nat) : (Char.ofNat n).toNat = n ∨ (Char.ofNat n).toNat = 0 := by
  by_cases h : n.isValidChar
  · left
    rw [Char.ofNat, dif_pos h]
    rfl
  · right
    rw [Char.ofNat, dif_neg h]
    rfl

/-- Where the span moves to, it lies on one side of each span of blanks. -/
def Shift.avoidsBlanks (s : Shift) : Bool :=
  blankSpans.all fun b ↦ s.span.last + s.offset < b.first || b.last < s.span.first + s.offset

theorem Shift.not_isBlank_ofNat {s : Shift} (h : s.avoidsBlanks = true) {n : Nat}
    (hn : s.span.contains n = true) : isBlank (Char.ofNat (n + s.offset).toNat) = false := by
  have hpositive : ∀ b ∈ blankSpans, 0 < b.first := by decide
  rw [isBlank, inSpans, List.any_eq_false]
  intro b hb hblank
  have hapart := List.all_eq_true.mp h b hb
  have hfirst := hpositive b hb
  simp only [Span.contains, Bool.and_eq_true, decide_eq_true_eq] at hn hblank
  simp only [Bool.or_eq_true, decide_eq_true_eq] at hapart
  rcases toNat_ofNat_eq_or (n + s.offset).toNat with hcode | hcode <;>
    rw [hcode] at hblank <;> omega

/-- The case mapping leads to no blank, and nothing vanishes under it. -/
def mapsToWords (shifts : List Shift) (expansions : List (Nat × List Nat)) : Bool :=
  shifts.all (·.avoidsBlanks) &&
    expansions.all fun e ↦ !e.2.isEmpty && e.2.all fun n ↦ !isBlank (Char.ofNat n)

/-- A text that is not empty and holds no blank. -/
structure IsWord (cs : List Char) : Prop where
  /-- There is something. -/
  ne_nil : cs ≠ []
  /-- Nothing in it is blank. -/
  not_isBlank : ∀ c ∈ cs, isBlank c = false

theorem isWord_singleton {c : Char} (h : isBlank c = false) : IsWord [c] :=
  ⟨List.cons_ne_nil c [], fun _ hd ↦ List.mem_singleton.mp hd ▸ h⟩

theorem isWord_mapCase {shifts : List Shift} {expansions : List (Nat × List Nat)}
    (h : mapsToWords shifts expansions = true) {c : Char} (hc : isBlank c = false) :
    IsWord (mapCase shifts expansions c) := by
  obtain ⟨hshifts, hexpansions⟩ := Bool.and_eq_true_iff.mp h
  rw [mapCase]
  cases hlookup : expansions.lookup c.toNat with
  | some codes =>
    obtain ⟨before, after, hmem, -⟩ := List.lookup_eq_some_iff.mp hlookup
    have hcodes := List.all_eq_true.mp hexpansions (c.toNat, codes) (by simp [hmem])
    simp only [Bool.and_eq_true, Bool.not_eq_true', List.isEmpty_eq_false_iff,
      List.all_eq_true] at hcodes
    refine ⟨by simpa using hcodes.1, fun d hd ↦ ?_⟩
    obtain ⟨n, hn, rfl⟩ := List.mem_map.mp hd
    exact hcodes.2 n hn
  | none =>
    apply isWord_singleton
    rw [shiftBy]
    cases hfind : shifts.find? (·.span.contains c.toNat) with
    | none =>
      rw [Char.ofNat_toNat]
      exact hc
    | some s =>
      have hcontains : s.span.contains c.toNat = true := by simpa using List.find?_some hfind
      have havoids := List.all_eq_true.mp hshifts s (List.mem_of_find?_eq_some hfind)
      exact Shift.not_isBlank_ofNat havoids hcontains

theorem isWord_lowerChar {c : Char} (h : isBlank c = false) : IsWord (lowerChar c) :=
  isWord_mapCase (by decide +kernel) h

theorem isWord_upperChar {c : Char} (h : isBlank c = false) : IsWord (upperChar c) :=
  isWord_mapCase (by decide +kernel) h

/-- Outside words as well, the lower case of one character is a word. -/
theorem exists_isWord_lowerAfter_cons {c : Char} (h : isBlank c = false) (before cs : List Char) :
    ∃ image, IsWord image ∧ lowerAfter before (c :: cs) = image ++ lowerAfter (c :: before) cs := by
  refine ⟨_, ?_, rfl⟩
  by_cases hsigma : c = 'Σ'
  · rw [if_pos hsigma]
    split <;> exact isWord_singleton (by decide)
  · rw [if_neg hsigma]
    exact isWord_lowerChar h

theorem not_isBlank_of_mem_lowerAfter {before cs : List Char} (h : ∀ c ∈ cs, isBlank c = false) :
    ∀ d ∈ lowerAfter before cs, isBlank d = false := by
  induction cs generalizing before with
  | nil => exact nofun
  | cons c cs ih =>
    obtain ⟨hc, hcs⟩ := List.forall_mem_cons.mp h
    obtain ⟨image, himage, heq⟩ := exists_isWord_lowerAfter_cons hc before cs
    rw [heq, List.forall_mem_append]
    exact ⟨himage.not_isBlank, ih hcs⟩

theorem IsWord.lowered {cs : List Char} (h : IsWord cs) : IsWord (lowered cs) := by
  refine ⟨?_, not_isBlank_of_mem_lowerAfter h.not_isBlank⟩
  obtain ⟨c, rest, rfl⟩ := List.exists_cons_of_ne_nil h.ne_nil
  obtain ⟨image, himage, heq⟩ :=
    exists_isWord_lowerAfter_cons (h.not_isBlank c List.mem_cons_self) [] rest
  rw [Text.lowered, heq]
  exact List.append_ne_nil_of_left_ne_nil himage.ne_nil _

theorem IsWord.capitalized {cs : List Char} (h : IsWord cs) : IsWord (capitalized cs) := by
  obtain ⟨c, rest, rfl⟩ := List.exists_cons_of_ne_nil h.ne_nil
  obtain ⟨hc, hrest⟩ := List.forall_mem_cons.mp h.not_isBlank
  have hupper := isWord_upperChar hc
  exact ⟨List.append_ne_nil_of_left_ne_nil hupper.ne_nil rest,
    List.forall_mem_append.mpr ⟨hupper.not_isBlank, hrest⟩⟩

/-! ## Plain ends -/

/-- A text that neither begins nor ends with a blank. -/
structure HasPlainEnds (cs : List Char) : Prop where
  /-- It does not begin with a blank. -/
  head : ∀ c ∈ cs.head?, isBlank c = false
  /-- It does not end with a blank. -/
  last : ∀ c ∈ cs.getLast?, isBlank c = false

theorem hasPlainEnds_nil : HasPlainEnds [] := ⟨nofun, nofun⟩

theorem IsWord.hasPlainEnds {cs : List Char} (h : IsWord cs) : HasPlainEnds cs :=
  ⟨fun c hc ↦ h.not_isBlank c (List.mem_of_head? hc),
    fun c hc ↦ h.not_isBlank c (List.mem_of_getLast? hc)⟩

theorem HasPlainEnds.append {as bs : List Char} (ha : HasPlainEnds as) (hb : HasPlainEnds bs)
    (hne : as ≠ []) (hne' : bs ≠ []) (between : List Char) :
    HasPlainEnds (as ++ between ++ bs) := by
  constructor
  · obtain ⟨a, as, rfl⟩ := List.exists_cons_of_ne_nil hne
    exact ha.head
  · obtain ⟨front, b, rfl⟩ := (List.eq_nil_or_concat' bs).resolve_left hne'
    have hlast := hb.last
    rw [List.getLast?_concat] at hlast
    rw [← List.append_assoc, List.getLast?_concat]
    exact hlast

theorem HasPlainEnds.trimmed_eq {cs : List Char} (h : HasPlainEnds cs) : trimmed cs = cs := by
  rcases List.eq_nil_or_concat' cs with rfl | ⟨front, d, hlast⟩
  · rfl
  · have hd : isBlank d = false := h.last d (by rw [hlast, List.getLast?_concat]; rfl)
    have hdrop : dropBlanks cs = cs := by
      cases cs with
      | nil => rfl
      | cons c cs => exact dropBlanks_cons_of_not_isBlank (h.head c rfl) cs
    rw [trimmed, hdrop, hlast, dropFinalBlanks_append_cons hd]
    rfl

theorem HasPlainEnds.capitalized {cs : List Char} (h : HasPlainEnds cs) :
    HasPlainEnds (capitalized cs) := by
  cases cs with
  | nil => exact hasPlainEnds_nil
  | cons c cs =>
    have hupper : IsWord (upperChar c) := isWord_upperChar (h.head c rfl)
    rw [Text.capitalized]
    rcases List.eq_nil_or_concat' cs with rfl | ⟨front, d, rfl⟩
    · rw [List.append_nil]
      exact hupper.hasPlainEnds
    · have hd : isBlank d = false := by
        refine h.last d ?_
        rw [← List.cons_append, List.getLast?_concat]
        rfl
      rw [← List.append_assoc]
      exact hupper.hasPlainEnds.append (isWord_singleton hd).hasPlainEnds hupper.ne_nil
        (List.cons_ne_nil d []) front

end PropertyCatalog.Text
