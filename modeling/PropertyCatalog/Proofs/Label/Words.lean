import PropertyCatalog.Proofs.Label.Derived

/-!
# Words of a text

Splitting a text into words loses nothing but the separators (`flatten_words`), and a separator
splits a text into two that can be taken apart on their own (`words_append_cons`).

Whether a word ends before a capital may depend on the character behind that capital, so a word
taken out of its text could fall apart differently there. It does not fall apart at all: what stood
behind it can only have caused a break, never prevented one. A word is therefore its own only word
(`words_of_mem_words`), and words with spaces between them are the words of that text
(`words_intercalate`).
-/

namespace PropertyCatalog.Label

open Text

variable {a c s : Char} {before current cs w : List Char}

/-! ## One character at a time -/

theorem wordsAfter_cons_of_isSeparator (h : isSeparator c = true) :
    wordsAfter current (c :: cs) = finished current ++ words cs := by
  cases current <;> simp only [wordsAfter, h, if_true, words]

theorem wordsAfter_nil_cons (h : isSeparator c = false) :
    wordsAfter [] (c :: cs) = wordsAfter [c] cs := by
  rw [wordsAfter, h, if_neg Bool.false_ne_true]

theorem wordsAfter_cons_of_breaks (h : isSeparator c = false)
    (hbreaks : breaksBetween a c cs = true) :
    wordsAfter (a :: before) (c :: cs) = (a :: before).reverse :: wordsAfter [c] cs := by
  rw [wordsAfter, h, if_neg Bool.false_ne_true]
  exact if_pos hbreaks

theorem wordsAfter_cons_of_not_breaks (h : isSeparator c = false)
    (hbreaks : breaksBetween a c cs = false) :
    wordsAfter (a :: before) (c :: cs) = wordsAfter (c :: a :: before) cs := by
  rw [wordsAfter, h, if_neg Bool.false_ne_true]
  exact if_neg (Bool.not_eq_true _ ▸ hbreaks)

theorem exists_wordsAfter_eq_cons (cs : List Char) (h : current ≠ []) :
    ∃ v vs, wordsAfter current cs = (current.reverse ++ v) :: vs := by
  fun_induction wordsAfter current cs with
  | case1 current =>
    refine ⟨[], [], ?_⟩
    rw [finished, if_neg (by simpa using h), List.append_nil]
  | case2 current c cs _ _ =>
    refine ⟨[], wordsAfter [] cs, ?_⟩
    rw [finished, if_neg (by simpa using h), List.append_nil, List.singleton_append]
  | case3 => exact absurd rfl h
  | case4 c cs _ a before _ _ => exact ⟨[], wordsAfter [c] cs, by rw [List.append_nil]⟩
  | case5 c cs _ a before _ ih =>
    obtain ⟨v, vs, heq⟩ := ih (List.cons_ne_nil c (a :: before))
    exact ⟨c :: v, vs, by rw [heq]; simp⟩

/-! ## What is left of a text -/

theorem flatten_finished (current : List Char) : (finished current).flatten = current.reverse := by
  cases current <;> simp [finished]

theorem flatten_wordsAfter (current cs : List Char) :
    (wordsAfter current cs).flatten = current.reverse ++ cs.filter (!isSeparator ·) := by
  fun_induction wordsAfter current cs with
  | case1 current => rw [flatten_finished, List.filter_nil, List.append_nil]
  | case2 current c cs hc ih =>
    rw [List.flatten_append, flatten_finished, ih, List.filter_cons_of_neg (by simp [hc])]
    rfl
  | case3 c cs hc ih =>
    rw [ih, List.filter_cons_of_pos (by simp [hc])]
    rfl
  | case4 c cs hc a before _ ih =>
    rw [List.flatten_cons, ih, List.filter_cons_of_pos (by simp [hc])]
    rfl
  | case5 c cs hc a before _ ih =>
    rw [ih, List.filter_cons_of_pos (by simp [hc]), List.reverse_cons, List.append_assoc,
      List.singleton_append]

theorem flatten_words (cs : List Char) : (words cs).flatten = cs.filter (!isSeparator ·) :=
  flatten_wordsAfter [] cs

theorem words_eq_nil_iff : words cs = [] ↔ ∀ c ∈ cs, isSeparator c = true := by
  have hflatten : words cs = [] ↔ (words cs).flatten = [] := by
    refine ⟨fun h ↦ h ▸ rfl, fun h ↦ List.eq_nil_iff_forall_not_mem.mpr fun w hw ↦ ?_⟩
    exact (isWord_of_mem_words hw).ne_nil (List.flatten_eq_nil_iff.mp h w hw)
  rw [hflatten, flatten_words, List.filter_eq_nil_iff]
  simp

/-! ## At a separator -/

theorem not_isLower_of_isBlank (h : isBlank s = true) : isLower s = false := by
  have hapart : ∀ b ∈ blankSpans, ∀ n ∈ List.range' b.first (b.last + 1 - b.first),
      lowerSpans.any (·.contains n) = false := by
    decide +kernel
  obtain ⟨b, hb, hcontains⟩ := List.any_eq_true.mp h
  simp only [Span.contains, Bool.and_eq_true, decide_eq_true_eq] at hcontains
  refine hapart b hb s.toNat (List.mem_range'_1.mpr ?_)
  omega

theorem not_isLower_of_isSeparator (h : isSeparator s = true) : isLower s = false := by
  simp only [isSeparator, Bool.or_eq_true, decide_eq_true_eq] at h
  obtain (rfl | rfl) | hblank := h
  · decide +kernel
  · decide +kernel
  · exact not_isLower_of_isBlank hblank

/-- Before a separator a word ends as it does before the end of a text. -/
theorem breaksBetween_append_cons (h : isSeparator s = true) (a b : Char) (cs ds : List Char) :
    breaksBetween a b (cs ++ s :: ds) = breaksBetween a b cs := by
  cases cs with
  | nil => simp [breaksBetween, not_isLower_of_isSeparator h]
  | cons c cs => rfl

theorem wordsAfter_append_cons (h : isSeparator s = true) (current as bs : List Char) :
    wordsAfter current (as ++ s :: bs) = wordsAfter current as ++ words bs := by
  fun_induction wordsAfter current as with
  | case1 current => exact wordsAfter_cons_of_isSeparator h
  | case2 current c cs hc ih =>
    rw [List.cons_append, wordsAfter_cons_of_isSeparator hc, words, ih, List.append_assoc]
  | case3 c cs hc ih =>
    rw [List.cons_append, wordsAfter_nil_cons (Bool.not_eq_true _ ▸ hc), ih]
  | case4 c cs hc a before hbreaks ih =>
    rw [← breaksBetween_append_cons h a c cs bs] at hbreaks
    rw [List.cons_append, wordsAfter_cons_of_breaks (Bool.not_eq_true _ ▸ hc) hbreaks, ih,
      List.cons_append]
  | case5 c cs hc a before hbreaks ih =>
    rw [← breaksBetween_append_cons h a c cs bs] at hbreaks
    rw [List.cons_append, wordsAfter_cons_of_not_breaks (Bool.not_eq_true _ ▸ hc)
      (Bool.not_eq_true _ ▸ hbreaks), ih]

theorem words_append_cons (h : isSeparator s = true) (as bs : List Char) :
    words (as ++ s :: bs) = words as ++ words bs := wordsAfter_append_cons h [] as bs

/-! ## Words on their own -/

/-- No word ends inside the text, where `after` follows it. -/
def Unbroken (after cs : List Char) : Prop :=
  ∀ front a b back, cs = front ++ a :: b :: back → breaksBetween a b (back ++ after) = false

theorem unbroken_singleton (after : List Char) (c : Char) : Unbroken after [c] := by
  intro front a b back heq
  have hlength := congrArg List.length heq
  simp only [List.length_append, List.length_cons, List.length_nil] at hlength
  omega

/-- Only a capital behind the first character can begin a word inside a text. -/
theorem unbroken_of_tail (after : List Char) (h : ∀ c ∈ cs.tail, isUpper c = false) :
    Unbroken after cs := by
  rintro front a b back rfl
  have hmem : b ∈ (front ++ a :: b :: back).tail := by
    cases front <;> simp
  rw [breaksBetween, h b hmem, Bool.false_and]

/-- What follows a text causes breaks in it and prevents none. -/
theorem Unbroken.alone {after : List Char} (h : Unbroken after cs) : Unbroken [] cs := by
  intro front a b back heq
  have hpair := h front a b back heq
  cases back with
  | cons c back => exact hpair
  | nil =>
    simp only [breaksBetween, Bool.and_eq_false_iff, Bool.or_eq_false_iff] at hpair ⊢
    exact hpair.imp_right fun h ↦ ⟨h.1, .inr rfl⟩

/-- The next character joins the text where it begins no word. -/
theorem Unbroken.concat {front : List Char} (h : Unbroken (c :: cs) (front ++ [a]))
    (hbreaks : breaksBetween a c cs = false) : Unbroken cs (front ++ [a] ++ [c]) := by
  intro front' a' b back heq
  rcases List.eq_nil_or_concat' back with rfl | ⟨back, d, rfl⟩
  · have hsplit : front ++ [a] ++ [c] = front' ++ [a'] ++ [b] := by simpa using heq
    obtain ⟨hfront, hlast⟩ := List.append_inj' hsplit rfl
    obtain ⟨-, hlast'⟩ := List.append_inj' hfront rfl
    obtain rfl := List.singleton_inj.mp hlast
    obtain rfl := List.singleton_inj.mp hlast'
    exact hbreaks
  · have hsplit : front ++ [a] ++ [c] = (front' ++ a' :: b :: back) ++ [d] := by simpa using heq
    obtain ⟨hfront, hlast⟩ := List.append_inj' hsplit rfl
    obtain rfl := List.singleton_inj.mp hlast
    have hpair := h front' a' b back hfront
    simpa using hpair

/-- The walk over a text breaks it wherever a word ends, so no word that it yields is broken. -/
theorem unbroken_of_mem_wordsAfter (h : current ≠ [] → Unbroken cs current.reverse)
    (hw : w ∈ wordsAfter current cs) : Unbroken [] w := by
  fun_induction wordsAfter current cs with
  | case1 current =>
    obtain ⟨hne, rfl⟩ := mem_finished_iff.mp hw
    exact h hne
  | case2 current c cs _ ih =>
    rcases List.mem_append.mp hw with hw | hw
    · obtain ⟨hne, rfl⟩ := mem_finished_iff.mp hw
      exact (h hne).alone
    · exact ih (fun hne ↦ absurd rfl hne) hw
  | case3 c cs _ ih => exact ih (fun _ ↦ unbroken_singleton cs c) hw
  | case4 c cs _ a before _ ih =>
    rcases List.mem_cons.mp hw with rfl | hw
    · exact (h (List.cons_ne_nil a before)).alone
    · exact ih (fun _ ↦ unbroken_singleton cs c) hw
  | case5 c cs _ a before hbreaks ih =>
    refine ih (fun _ ↦ ?_) hw
    have hbefore := h (List.cons_ne_nil a before)
    rw [List.reverse_cons] at hbefore
    rw [List.reverse_cons, List.reverse_cons]
    exact hbefore.concat (Bool.not_eq_true _ ▸ hbreaks)

/-- An unfinished word that goes on to the end of the text, unbroken, is its only word. -/
theorem wordsAfter_of_unbroken (hseparators : ∀ c ∈ cs, isSeparator c = false)
    (h : Unbroken [] ((a :: before).reverse ++ cs)) :
    wordsAfter (a :: before) cs = [(a :: before).reverse ++ cs] := by
  induction cs generalizing a before with
  | nil => simp [wordsAfter, finished]
  | cons c cs ih =>
    obtain ⟨hc, hcs⟩ := List.forall_mem_cons.mp hseparators
    have hbreaks : breaksBetween a c cs = false := by
      simpa using h before.reverse a c cs (by simp)
    have hsplit : (a :: before).reverse ++ c :: cs = (c :: a :: before).reverse ++ cs := by simp
    rw [wordsAfter_cons_of_not_breaks hc hbreaks, hsplit]
    exact ih hcs (hsplit ▸ h)

theorem words_of_unbroken (hne : w ≠ []) (hseparators : ∀ c ∈ w, isSeparator c = false)
    (h : Unbroken [] w) : words w = [w] := by
  obtain ⟨c, cs, rfl⟩ := List.exists_cons_of_ne_nil hne
  obtain ⟨hc, hcs⟩ := List.forall_mem_cons.mp hseparators
  rw [words, wordsAfter_nil_cons hc]
  exact wordsAfter_of_unbroken hcs h

theorem words_of_mem_words (hw : w ∈ words cs) : words w = [w] := by
  obtain ⟨hne, hseparators⟩ := not_isSeparator_of_mem_wordsAfter (by exact nofun) hw
  exact words_of_unbroken hne hseparators (unbroken_of_mem_wordsAfter (absurd rfl) hw)

theorem words_intercalate {ws : List (List Char)} (h : ∀ w ∈ ws, words w = [w]) :
    words (List.intercalate [' '] ws) = ws := by
  induction ws with
  | nil => rfl
  | cons w ws ih =>
    obtain ⟨hw, hws⟩ := List.forall_mem_cons.mp h
    cases ws with
    | nil => rwa [List.intercalate_singleton]
    | cons v ws =>
      rw [List.intercalate_cons_cons, List.append_assoc, List.singleton_append,
        words_append_cons (by decide), hw, ih hws, List.singleton_append]

end PropertyCatalog.Label
