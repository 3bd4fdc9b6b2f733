import PropertyCatalog.Proofs.Label.Walk

/-!
# Boundaries of words

Which characters of a text share a word is settled by what stands around them. Without its
separators a text is a row of characters, and its words, one after another, are that row. Two
neighbours in the row belong to different words where separators stood between them, or where the
later one is a capital that begins a word behind the earlier one (`Neighbours.IsBoundary`).

At a boundary the words fall into two parts, one up to the earlier character and one from the later
on (`Neighbours.IsBoundary.exists_parted`). Elsewhere one word holds both
(`Neighbours.exists_joined`). Numbering the words turns the first into different numbers and the
second into equal ones.
-/

namespace PropertyCatalog.Label

open Text

variable {a b : Char} {as bs text : List Char} {ws vs : List (List Char)} {i k : Nat}

/-! ## Numbers of words -/

/-- The characters of the words, one after another, each with the number of its word. -/
def numberedFrom (k : Nat) (ws : List (List Char)) : List (Char × Nat) :=
  (ws.zipIdx k).flatMap fun w ↦ w.1.map (·, w.2)

theorem numberedFrom_cons (k : Nat) (w : List Char) (ws : List (List Char)) :
    numberedFrom k (w :: ws) = w.map (·, k) ++ numberedFrom (k + 1) ws := by
  rw [numberedFrom, List.zipIdx_cons, List.flatMap_cons, ← numberedFrom]

theorem numberedFrom_append (k : Nat) (ws vs : List (List Char)) :
    numberedFrom k (ws ++ vs) = numberedFrom k ws ++ numberedFrom (k + ws.length) vs := by
  rw [numberedFrom, List.zipIdx_append, List.flatMap_append, ← numberedFrom, ← numberedFrom]

theorem map_fst_numberedFrom (k : Nat) (ws : List (List Char)) :
    (numberedFrom k ws).map Prod.fst = ws.flatten := by
  induction ws generalizing k with
  | nil => rfl
  | cons w ws ih =>
    rw [numberedFrom_cons, List.map_append, ih, List.flatten_cons, List.map_map]
    simp [Function.comp_def]

theorem length_numberedFrom (k : Nat) (ws : List (List Char)) :
    (numberedFrom k ws).length = ws.flatten.length := by
  rw [← map_fst_numberedFrom k, List.length_map]

theorem bounds_of_mem_numberedFrom (h : (a, i) ∈ numberedFrom k ws) :
    k ≤ i ∧ i < k + ws.length := by
  obtain ⟨⟨w, n⟩, hw, hmem⟩ := List.mem_flatMap.mp h
  obtain ⟨c, -, heq⟩ := List.mem_map.mp hmem
  obtain ⟨-, rfl⟩ := Prod.mk.inj heq
  exact ⟨List.le_snd_of_mem_zipIdx hw, List.snd_lt_add_of_mem_zipIdx hw⟩

theorem getElem?_append_pair {α : Type} (xs : List α) (x y : α) (zs : List α) :
    (xs ++ x :: y :: zs)[xs.length]? = some x ∧ (xs ++ x :: y :: zs)[xs.length + 1]? = some y := by
  simp

/-- Words that end with a character, and words that begin with the next, have different numbers. -/
theorem exists_numbers_of_parted (hws : ws.flatten = as ++ [a]) (hvs : vs.flatten = b :: bs) :
    ∃ i j, (numberedFrom 0 (ws ++ vs))[as.length]? = some (a, i) ∧
      (numberedFrom 0 (ws ++ vs))[as.length + 1]? = some (b, j) ∧ i ≠ j := by
  rw [← map_fst_numberedFrom 0] at hws
  rw [← map_fst_numberedFrom (0 + ws.length)] at hvs
  obtain ⟨before, last, hbefore, rfl, hlast⟩ := List.map_eq_append_iff.mp hws
  obtain ⟨⟨a, i⟩, rfl, rfl⟩ := List.map_eq_singleton_iff.mp hlast
  obtain ⟨⟨b, j⟩, after, hafter, rfl, -⟩ := List.map_eq_cons_iff.mp hvs
  rw [numberedFrom_append, hbefore, hafter, List.append_assoc, List.singleton_append,
    List.length_map]
  obtain ⟨hearlier, hlater⟩ := getElem?_append_pair before (a, i) (b, j) after
  have hi : i < 0 + ws.length :=
    (bounds_of_mem_numberedFrom (hbefore ▸ List.mem_append_right _ List.mem_cons_self)).2
  have hj : 0 + ws.length ≤ j := (bounds_of_mem_numberedFrom (hafter ▸ List.mem_cons_self)).1
  exact ⟨i, j, hearlier, hlater, Nat.ne_of_lt (Nat.lt_of_lt_of_le hi hj)⟩

theorem numbers_of_joined {u : List Char} (h : ws.flatten ++ u = as) (a b : Char) (v : List Char)
    (vs : List (List Char)) :
    (numberedFrom 0 (ws ++ (u ++ a :: b :: v) :: vs))[as.length]? = some (a, ws.length) ∧
      (numberedFrom 0 (ws ++ (u ++ a :: b :: v) :: vs))[as.length + 1]? = some (b, ws.length) := by
  have hlength : as.length = (numberedFrom 0 ws ++ u.map (·, ws.length)).length := by
    rw [← h, List.length_append, List.length_append, length_numberedFrom, List.length_map]
  have hsplit : numberedFrom 0 (ws ++ (u ++ a :: b :: v) :: vs)
      = numberedFrom 0 ws ++ u.map (·, ws.length) ++ (a, ws.length) :: (b, ws.length) ::
        (v.map (·, ws.length) ++ numberedFrom (ws.length + 1) vs) := by
    rw [numberedFrom_append, numberedFrom_cons, Nat.zero_add]
    simp
  rw [hsplit, hlength]
  exact getElem?_append_pair _ _ _ _

/-! ## Neighbours -/

/-- Two neighbours among the characters that are left of a text without its separators. -/
structure Neighbours (text : List Char) where
  /-- What stands before both. -/
  front : List Char
  /-- The earlier one. -/
  earlier : Char
  /-- The separators between them. -/
  gap : List Char
  /-- The later one. -/
  later : Char
  /-- What stands behind both. -/
  back : List Char
  /-- That is the whole text. -/
  text_eq : text = front ++ earlier :: gap ++ later :: back
  /-- The earlier one is left. -/
  earlier_left : isSeparator earlier = false
  /-- Nothing between them is. -/
  gap_deleted : ∀ c ∈ gap, isSeparator c = true
  /-- The later one is left. -/
  later_left : isSeparator later = false

namespace Neighbours

variable (p : Neighbours text)

/-- The place of the earlier one in the row of what is left. -/
def place : Nat := (p.front.filter (!isSeparator ·)).length

/-- A word ends between the two: separators do, or the later one begins a word. -/
def IsBoundary : Prop := p.gap ≠ [] ∨ breaksBetween p.earlier p.later p.back = true

variable {p}

theorem exists_place_eq {n : Nat} (h : n + 1 < (text.filter (!isSeparator ·)).length) :
    ∃ p : Neighbours text, p.place = n := by
  obtain ⟨as, a, b, bs, hrow, rfl⟩ : ∃ as a b bs,
      text.filter (!isSeparator ·) = as ++ a :: b :: bs ∧ as.length = n := by
    have hn := Nat.lt_of_succ_lt h
    have hsplit := List.take_append_drop n (text.filter (!isSeparator ·))
    rw [List.drop_eq_getElem_cons hn, List.drop_eq_getElem_cons h] at hsplit
    exact ⟨_, _, _, _, hsplit.symm, List.length_take_of_le (Nat.le_of_lt hn)⟩
  obtain ⟨front, rest, rfl, rfl, hrest⟩ := List.filter_eq_append_iff.mp hrow
  obtain ⟨deleted, behind, rfl, hdeleted, ha, hbehind⟩ := List.filter_eq_cons_iff.mp hrest
  obtain ⟨gap, back, rfl, hgap, hb, -⟩ := List.filter_eq_cons_iff.mp hbehind
  refine ⟨⟨front ++ deleted, a, gap, b, back, by simp, by simpa using ha,
    fun c hc ↦ by simpa using hgap c hc, by simpa using hb⟩, ?_⟩
  rw [place, List.filter_append, List.filter_eq_nil_iff.mpr hdeleted, List.append_nil]

theorem filter_front_concat :
    (p.front ++ [p.earlier]).filter (!isSeparator ·)
      = p.front.filter (!isSeparator ·) ++ [p.earlier] := by
  rw [List.filter_append, List.filter_singleton, p.earlier_left]
  rfl

/-- Where nothing stands between the two, the earlier one ends the unfinished word with which the
walk comes to the later one. -/
theorem exists_words_eq (h : p.gap = []) :
    ∃ ws before, words text = ws ++ wordsAfter (p.earlier :: before) (p.later :: p.back) ∧
      ws.flatten ++ before.reverse = p.front.filter (!isSeparator ·) := by
  obtain ⟨w, -, hat⟩ := Walk.exists_over? (p.front ++ [p.earlier]) (p.later :: p.back)
  obtain ⟨before, hcurrent⟩ : ∃ before, w.current = p.earlier :: before := by
    have hlast := hat.head?_current
    rw [List.getLast?_concat, Option.filter_some, p.earlier_left] at hlast
    exact ⟨_, List.eq_cons_of_mem_head? hlast⟩
  have htext : text = p.front ++ [p.earlier] ++ p.later :: p.back := p.text_eq.trans (by rw [h])
  have hwords := hat.words_eq
  have hflatten := hat.flatten_eq
  rw [hcurrent] at hwords hflatten
  rw [filter_front_concat, List.reverse_cons, ← List.append_assoc] at hflatten
  exact ⟨w.complete, before, (congrArg words htext).trans hwords,
    List.append_cancel_right hflatten⟩

theorem IsBoundary.exists_parted (h : p.IsBoundary) :
    ∃ ws vs bs, words text = ws ++ vs ∧
      ws.flatten = p.front.filter (!isSeparator ·) ++ [p.earlier] ∧ vs.flatten = p.later :: bs := by
  by_cases hgap : p.gap = []
  · have hbreaks := h.resolve_left (not_not.mpr hgap)
    obtain ⟨ws, before, hwords, hflatten⟩ := exists_words_eq hgap
    rw [wordsAfter_cons_of_breaks p.later_left hbreaks] at hwords
    refine ⟨ws ++ [(p.earlier :: before).reverse], wordsAfter [p.later] p.back,
      p.back.filter (!isSeparator ·), ?_, ?_, flatten_wordsAfter [p.later] p.back⟩
    · rw [hwords, List.append_assoc, List.singleton_append]
    · rw [List.flatten_append, List.flatten_singleton, List.reverse_cons, ← List.append_assoc,
        hflatten]
  · obtain ⟨s, gap, hcons⟩ := List.exists_cons_of_ne_nil hgap
    obtain ⟨hs, hrest⟩ := List.forall_mem_cons.mp (hcons ▸ p.gap_deleted)
    have htext : text = p.front ++ [p.earlier] ++ s :: (gap ++ p.later :: p.back) :=
      p.text_eq.trans (by rw [hcons]; simp)
    refine ⟨words (p.front ++ [p.earlier]), words (gap ++ p.later :: p.back),
      p.back.filter (!isSeparator ·), ?_, ?_, ?_⟩
    · exact (congrArg words htext).trans (words_append_cons hs _ _)
    · rw [flatten_words, filter_front_concat]
    · have hdeleted : gap.filter (!isSeparator ·) = [] :=
        List.filter_eq_nil_iff.mpr fun c hc ↦ by simp [hrest c hc]
      rw [flatten_words, List.filter_append, hdeleted, List.nil_append,
        List.filter_cons_of_pos (by simp [p.later_left])]

theorem exists_joined (h : ¬ p.IsBoundary) :
    ∃ ws u v vs, words text = ws ++ (u ++ p.earlier :: p.later :: v) :: vs ∧
      ws.flatten ++ u = p.front.filter (!isSeparator ·) := by
  obtain ⟨hgap, hbreaks⟩ := not_or.mp h
  obtain ⟨ws, before, hwords, hflatten⟩ := exists_words_eq (not_not.mp hgap)
  obtain ⟨v, vs, hcons⟩ :=
    exists_wordsAfter_eq_cons p.back (List.cons_ne_nil p.later (p.earlier :: before))
  refine ⟨ws, before.reverse, v, vs, ?_, hflatten⟩
  rw [hwords, wordsAfter_cons_of_not_breaks p.later_left (Bool.not_eq_true _ ▸ hbreaks), hcons]
  simp

variable (p)

/-- The numbers of the words that two neighbours belong to differ at a boundary, and only there. -/
theorem exists_numbers :
    ∃ i j, (numberedFrom 0 (words text))[p.place]? = some (p.earlier, i) ∧
      (numberedFrom 0 (words text))[p.place + 1]? = some (p.later, j) ∧ (i ≠ j ↔ p.IsBoundary) := by
  by_cases h : p.IsBoundary
  · obtain ⟨ws, vs, bs, hwords, hws, hvs⟩ := h.exists_parted
    obtain ⟨i, j, hi, hj, hne⟩ := exists_numbers_of_parted hws hvs
    exact ⟨i, j, hwords ▸ hi, hwords ▸ hj, iff_of_true hne h⟩
  · obtain ⟨ws, u, v, vs, hwords, hflatten⟩ := exists_joined h
    obtain ⟨hi, hj⟩ := numbers_of_joined hflatten p.earlier p.later v vs
    exact ⟨ws.length, ws.length, hwords ▸ hi, hwords ▸ hj, iff_of_false (not_not.mpr rfl) h⟩

theorem isBoundary_iff :
    p.IsBoundary ↔ p.gap ≠ [] ∨ isUpper p.later = true ∧
      (isLower p.earlier = true ∨ p.earlier.isDigit = true ∨
        isUpper p.earlier = true ∧ ∃ c ∈ p.back.head?, isLower c = true) := by
  simp only [IsBoundary, breaksBetween, Bool.and_eq_true, Bool.or_eq_true, Option.any_eq_true,
    or_assoc, Option.mem_def]

end Neighbours

/-- **The words of a text.** They can be found by looking at positions of the text alone, never one
before the first. No word is empty, and none holds a hyphen, an underscore or a blank. One after
another they are the text without these. Two characters that are then neighbours belong to different
words exactly if something was deleted between them, or the later one is a capital and the earlier
one is lower case, or a digit, or a capital too where lower case follows right behind. -/
theorem words_exact (text : List Char) :
    wordsByPosition? text = some (words text) ∧
      (∀ w ∈ words text, IsWord w ∧ '-' ∉ w ∧ '_' ∉ w) ∧
      (words text).flatten = text.filter (fun c ↦ c ≠ '-' ∧ c ≠ '_' ∧ isBlank c = false) ∧
      (∀ n, n + 1 < (words text).flatten.length → ∃ p : Neighbours text, p.place = n) ∧
      ∀ p : Neighbours text, ∃ i j,
        (numberedFrom 0 (words text))[p.place]? = some (p.earlier, i) ∧
          (numberedFrom 0 (words text))[p.place + 1]? = some (p.later, j) ∧
          (i ≠ j ↔ p.gap ≠ [] ∨ isUpper p.later = true ∧
            (isLower p.earlier = true ∨ p.earlier.isDigit = true ∨
              isUpper p.earlier = true ∧ ∃ c ∈ p.back.head?, isLower c = true)) := by
  refine ⟨wordsByPosition?_eq text, fun w hw ↦ ?_, ?_, fun n hn ↦ ?_, fun p ↦ ?_⟩
  · obtain ⟨-, hseparators⟩ := not_isSeparator_of_mem_wordsAfter (by exact nofun) hw
    refine ⟨isWord_of_mem_words hw, fun hyphen ↦ ?_, fun underscore ↦ ?_⟩
    · exact absurd (hseparators '-' hyphen) (by decide)
    · exact absurd (hseparators '_' underscore) (by decide)
  · rw [flatten_words]
    exact List.filter_congr fun c _ ↦ by simp [isSeparator, Bool.and_assoc]
  · exact Neighbours.exists_place_eq (flatten_words text ▸ hn)
  · rw [← p.isBoundary_iff]
    exact p.exists_numbers

/-- A row of capitals that ends with the first letter of a word, and separators behind that word. -/
theorem words_exact_acronym :
    let text := "maxHTTPPort_-2x".toList
    let numbers := numberedFrom 0 (words text)
    wordsByPosition? text = some ["max".toList, "HTTP".toList, "Port".toList, "2x".toList] ∧
      (∃ p : Neighbours text, p.place = 10) ∧
      (∃ i j, numbers[6]? = some ('P', i) ∧ numbers[7]? = some ('P', j) ∧ i ≠ j) ∧
      ∃ i j, numbers[10]? = some ('t', i) ∧ numbers[11]? = some ('2', j) ∧ i ≠ j := by
  intro text numbers
  obtain ⟨hwalk, -, -, hplaces, hnumbers⟩ := words_exact text
  have hwords : words text = ["max".toList, "HTTP".toList, "Port".toList, "2x".toList] := by
    decide +kernel
  have hcapital : isUpper 'P' = true := by decide +kernel
  have hsmall : isLower 'o' = true := by decide +kernel
  have hseparators : ∀ c ∈ ['_', '-'], isSeparator c = true := by simp [isSeparator]
  let capitals : Neighbours text :=
    ⟨"maxHTT".toList, 'P', [], 'P', "ort_-2x".toList, rfl, by decide,
      fun _ hc ↦ absurd hc List.not_mem_nil, by decide⟩
  let separated : Neighbours text :=
    ⟨"maxHTTPPor".toList, 't', ['_', '-'], '2', "x".toList, rfl, by decide, hseparators,
      by decide⟩
  obtain ⟨i, j, hi, hj, hcapitals⟩ := hnumbers capitals
  obtain ⟨k, l, hk, hl, hseparated⟩ := hnumbers separated
  exact ⟨hwords ▸ hwalk, hplaces 10 (by rw [hwords]; decide),
    ⟨i, j, hi, hj, hcapitals.mpr (.inr ⟨hcapital, .inr (.inr ⟨hcapital, 'o', rfl, hsmall⟩)⟩)⟩,
    ⟨k, l, hk, hl, hseparated.mpr (.inl (List.cons_ne_nil '_' ['-']))⟩⟩

end PropertyCatalog.Label
