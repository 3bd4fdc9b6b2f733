import Mathlib.Data.List.Induction
import PropertyCatalog.Proofs.Label.Words

/-!
# Walking over a text by position

The words of a text can be found by position. A walk goes over the positions in order, with the
words that are complete and the one that is not. Where a capital comes in the middle of a word, the
characters at the positions before and behind it decide whether the word ends. Nothing stands before
the first position, so a walk that looked there would fail.

## The invariant

When the walk has come to the end of `front` in `front ++ back` (`Walk.IsAt`), two things hold:

* the words of the whole are the complete ones, followed by those of `back` behind the unfinished
  one;
* the unfinished word ends with the last character of `front`, and there is none if that is a
  separator or if `front` is empty.

By the second, a walk with an unfinished word is behind the first position, and what it finds one
position before is the last character of that word. Every step therefore succeeds
(`Walk.IsAt.exists_step?`), and by the first, a whole walk yields the words of the text
(`wordsByPosition?_eq`).
-/

namespace PropertyCatalog.Label

open Text

variable {a c : Char} {before front back text : List Char}

/-! ## Walks -/

/-- The character one position before. -/
def charBefore? (text : List Char) : Nat → Option Char
  | 0 => none
  | i + 1 => text[i]?

/-- What a walk has found. -/
structure Walk where
  /-- The words that are complete. -/
  complete : List (List Char)
  /-- The unfinished word, collected backwards. -/
  current : List Char

namespace Walk

variable {w : Walk}

/-- The words, if the text ends here. -/
def found (w : Walk) : List (List Char) := w.complete ++ finished w.current

/-- The walk goes on over a character at its position. -/
def step? (text : List Char) (w : Walk) : Char × Nat → Option Walk
  | (c, i) =>
    if isSeparator c then some ⟨w.found, []⟩
    else if isUpper c && !w.current.isEmpty then
      -- only a capital in the middle of a word asks for the character before
      (charBefore? text i).map fun a ↦
        if breaksBetween a c (text.drop (i + 1)) then ⟨w.found, [c]⟩
        else ⟨w.complete, c :: w.current⟩
    else some ⟨w.complete, c :: w.current⟩

/-- The walk over `front ++ back` has come to the end of `front`. -/
structure IsAt (w : Walk) (front back : List Char) : Prop where
  /-- Behind the complete words come those of the rest, with the unfinished one in front. -/
  words_eq : words (front ++ back) = w.complete ++ wordsAfter w.current back
  /-- The unfinished word reaches to here. -/
  head?_current : w.current.head? = front.getLast?.filter (!isSeparator ·)

/-- Nothing is lost on the way. -/
theorem IsAt.flatten_eq (h : w.IsAt front back) :
    w.complete.flatten ++ w.current.reverse = front.filter (!isSeparator ·) := by
  have hwhole := congrArg List.flatten h.words_eq
  rw [flatten_words, List.filter_append, List.flatten_append, flatten_wordsAfter,
    ← List.append_assoc] at hwhole
  exact (List.append_cancel_right hwhole).symm

theorem isAt_nil (text : List Char) : (⟨[], []⟩ : Walk).IsAt [] text := ⟨rfl, rfl⟩

/-! ## One step -/

theorem charBefore?_length (front back : List Char) :
    charBefore? (front ++ back) front.length = front.getLast? := by
  rcases List.eq_nil_or_concat' front with rfl | ⟨front, a, rfl⟩
  · rfl
  · rw [List.length_append, List.length_singleton, charBefore?]
    simp

/-- In the middle of a word the step is decided by the last character of that word, whether it looks
at it or not. -/
theorem step?_of_current_eq_cons {i : Nat} (hc : isSeparator c = false)
    (hcurrent : w.current = a :: before) (hbefore : charBefore? text i = some a) :
    w.step? text (c, i) = some (if breaksBetween a c (text.drop (i + 1)) then ⟨w.found, [c]⟩
      else ⟨w.complete, c :: w.current⟩) := by
  rw [step?, hc, if_neg Bool.false_ne_true, hcurrent, hbefore]
  by_cases hupper : isUpper c = true
  · rw [hupper]
    rfl
  · have hupper : isUpper c = false := Bool.not_eq_true _ ▸ hupper
    have hbreaks : breaksBetween a c (text.drop (i + 1)) = false := by
      rw [breaksBetween, hupper, Bool.false_and]
    rw [hupper, hbreaks]
    rfl

theorem isAt_concat {ws : List (List Char)} (hc : isSeparator c = false)
    (hwords : words (front ++ c :: back) = ws ++ wordsAfter (c :: before) back) :
    (⟨ws, c :: before⟩ : Walk).IsAt (front ++ [c]) back where
  words_eq := by rw [List.append_assoc, List.singleton_append, hwords]
  head?_current := by simp [Option.filter, hc]

theorem IsAt.exists_step? (h : w.IsAt front (c :: back)) :
    ∃ w', w.step? (front ++ c :: back) (c, front.length) = some w' ∧
      w'.IsAt (front ++ [c]) back := by
  cases hc : isSeparator c with
  | true =>
    refine ⟨⟨w.found, []⟩, if_pos hc, ?_, by simp [Option.filter, hc]⟩
    rw [List.append_assoc, List.singleton_append, h.words_eq, wordsAfter_cons_of_isSeparator hc,
      found, List.append_assoc, words]
  | false =>
    cases hcurrent : w.current with
    | nil =>
      refine ⟨⟨w.complete, [c]⟩, ?_, isAt_concat hc ?_⟩
      · rw [step?, hc, hcurrent]
        simp
      · rw [h.words_eq, hcurrent, wordsAfter_nil_cons hc]
    | cons a before =>
      -- the position before is the last one of the front, so the step can look there
      have hlast : front.getLast? = some a := by
        have hfilter := h.head?_current
        rw [hcurrent, List.head?_cons] at hfilter
        exact (Option.filter_eq_some_iff.mp hfilter.symm).1
      have hdrop : (front ++ c :: back).drop (front.length + 1) = back := by simp
      have hstep := step?_of_current_eq_cons hc hcurrent
        ((charBefore?_length front (c :: back)).trans hlast)
      rw [hdrop, hcurrent] at hstep
      refine ⟨_, hstep, ?_⟩
      by_cases hbreaks : breaksBetween a c back = true
      · rw [if_pos hbreaks]
        refine isAt_concat hc ?_
        rw [h.words_eq, hcurrent, wordsAfter_cons_of_breaks hc hbreaks, found, hcurrent]
        simp [finished]
      · rw [if_neg hbreaks]
        refine isAt_concat hc ?_
        rw [h.words_eq, hcurrent,
          wordsAfter_cons_of_not_breaks hc (Bool.not_eq_true _ ▸ hbreaks)]

-- without the invariant a step can fail
example : Walk.step? "A".toList ⟨[], ['a']⟩ ('A', 0) = none := by decide +kernel

/-! ## Whole walks -/

/-- The walk over the front of a text. It fails where one of its steps does. -/
def over? (text front : List Char) : Option Walk := front.zipIdx.foldlM (step? text) ⟨[], []⟩

theorem exists_over? (front back : List Char) :
    ∃ w, over? (front ++ back) front = some w ∧ w.IsAt front back := by
  induction front using List.reverseRecOn generalizing back with
  | nil => exact ⟨⟨[], []⟩, rfl, isAt_nil back⟩
  | append_singleton front c ih =>
    obtain ⟨w, hw, hat⟩ := ih (c :: back)
    obtain ⟨w', hw', hat'⟩ := hat.exists_step?
    refine ⟨w', ?_, hat'⟩
    rw [over?] at hw
    rw [over?, List.append_assoc, List.singleton_append, List.zipIdx_append, List.foldlM_append, hw]
    simp [hw']

end Walk

/-- The words of a text, found by position. -/
def wordsByPosition? (text : List Char) : Option (List (List Char)) :=
  (Walk.over? text text).map Walk.found

/-- No position before the first is looked at, and the words are found. -/
theorem wordsByPosition?_eq (text : List Char) : wordsByPosition? text = some (words text) := by
  obtain ⟨w, hw, hat⟩ := Walk.exists_over? text []
  have hwords := hat.words_eq
  rw [List.append_nil] at hw hwords
  rw [wordsByPosition?, hw, Option.map_some, hwords]
  rfl

end PropertyCatalog.Label
