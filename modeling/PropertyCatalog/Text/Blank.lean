import PropertyCatalog.Text.Span

/-!
# Blanks

A blank is a character with the Unicode property `White_Space`. Trimming removes blanks from both
ends of a text and from nowhere else; `trim_trim` says that there is nothing left to remove. The two
ends do not get in each other's way: it does not matter which is cleared first.
-/

namespace PropertyCatalog.Text

/-- The code points with the property `White_Space`. -/
def blankSpans : List Span :=
  [⟨0x9, 0xd, 1⟩, ⟨0x20, 0x20, 1⟩, ⟨0x85, 0x85, 1⟩, ⟨0xa0, 0xa0, 1⟩, ⟨0x1680, 0x1680, 1⟩,
   ⟨0x2000, 0x200a, 1⟩, ⟨0x2028, 0x2029, 1⟩, ⟨0x202f, 0x202f, 1⟩, ⟨0x205f, 0x205f, 1⟩,
   ⟨0x3000, 0x3000, 1⟩]

def isBlank (c : Char) : Bool := inSpans blankSpans c

/-- The characters without the blanks at the front. -/
def dropBlanks (cs : List Char) : List Char := cs.dropWhile isBlank

/-- The characters without the blanks at the back. -/
def dropFinalBlanks (cs : List Char) : List Char := (dropBlanks cs.reverse).reverse

/-- The characters without the blanks at both ends. -/
def trimmed (cs : List Char) : List Char := dropFinalBlanks (dropBlanks cs)

/-- The text without the blanks at both ends. -/
def trim (s : String) : String := String.ofList (trimmed s.toList)

@[simp] theorem toList_trim (s : String) : (trim s).toList = trimmed s.toList :=
  String.toList_ofList

theorem not_isBlank_of_isDigit {c : Char} (h : c.isDigit = true) : isBlank c = false := by
  obtain ⟨hge, hle⟩ := Char.isDigit_iff_toNat.mp h
  have hzero : '0'.toNat = 48 := rfl
  have hnine : '9'.toNat = 57 := rfl
  refine List.any_eq_false.mpr fun s hs ↦ ?_
  simp only [blankSpans, List.mem_cons, List.not_mem_nil, or_false] at hs
  -- every span ends before the digits or begins behind them
  rcases hs with rfl | rfl | rfl | rfl | rfl | rfl | rfl | rfl | rfl | rfl <;>
    simp only [Span.contains, Bool.and_eq_true, decide_eq_true_eq] <;> omega

/-! ## The front -/

theorem dropBlanks_cons_of_isBlank {c : Char} (h : isBlank c = true) (cs : List Char) :
    dropBlanks (c :: cs) = dropBlanks cs := List.dropWhile_cons_of_pos h

theorem dropBlanks_cons_of_not_isBlank {c : Char} (h : isBlank c = false) (cs : List Char) :
    dropBlanks (c :: cs) = c :: cs := List.dropWhile_cons_of_neg (Bool.not_eq_true _ ▸ h)

theorem dropBlanks_append (cs ds : List Char) :
    dropBlanks (cs ++ ds)
      = if (dropBlanks cs).isEmpty then dropBlanks ds else dropBlanks cs ++ ds :=
  List.dropWhile_append

theorem dropBlanks_dropBlanks (cs : List Char) : dropBlanks (dropBlanks cs) = dropBlanks cs := by
  induction cs with
  | nil => rfl
  | cons c cs ih =>
    cases h : isBlank c with
    | true => rw [dropBlanks_cons_of_isBlank h, ih]
    | false => rw [dropBlanks_cons_of_not_isBlank h, dropBlanks_cons_of_not_isBlank h]

theorem mem_dropBlanks_iff {c : Char} (h : isBlank c = false) {cs : List Char} :
    c ∈ dropBlanks cs ↔ c ∈ cs := by
  induction cs with
  | nil => rfl
  | cons d cs ih =>
    cases hd : isBlank d with
    | true =>
      have hne : c ≠ d := fun heq ↦ Bool.false_ne_true (h.symm.trans (heq ▸ hd))
      rw [dropBlanks_cons_of_isBlank hd, ih, List.mem_cons, or_iff_right hne]
    | false => rw [dropBlanks_cons_of_not_isBlank hd]

/-! ## The back -/

theorem dropFinalBlanks_append_cons {d : Char} (h : isBlank d = false) (cs ds : List Char) :
    dropFinalBlanks (cs ++ d :: ds) = cs ++ d :: dropFinalBlanks ds := by
  have hreverse : (cs ++ d :: ds).reverse = ds.reverse ++ d :: cs.reverse := by simp
  rw [dropFinalBlanks, hreverse, dropBlanks_append, dropBlanks_cons_of_not_isBlank h,
    dropFinalBlanks]
  cases dropBlanks ds.reverse <;> simp

theorem dropFinalBlanks_cons_of_isBlank {c : Char} (h : isBlank c = true) (cs : List Char) :
    dropFinalBlanks (c :: cs)
      = if dropFinalBlanks cs = [] then [] else c :: dropFinalBlanks cs := by
  rw [dropFinalBlanks, List.reverse_cons, dropBlanks_append, dropBlanks_cons_of_isBlank h,
    dropFinalBlanks]
  cases dropBlanks cs.reverse <;> simp [dropBlanks]

theorem dropFinalBlanks_dropFinalBlanks (cs : List Char) :
    dropFinalBlanks (dropFinalBlanks cs) = dropFinalBlanks cs := by
  rw [dropFinalBlanks, dropFinalBlanks, List.reverse_reverse, dropBlanks_dropBlanks]

/-- Where a text has no blanks at its back, its last part has none. -/
theorem dropFinalBlanks_of_append {as bs : List Char} (h : dropFinalBlanks (as ++ bs) = as ++ bs) :
    dropFinalBlanks bs = bs := by
  have hreverse := congrArg List.reverse h
  rw [dropFinalBlanks, List.reverse_reverse, List.reverse_append] at hreverse
  cases hbs : bs.reverse with
  | nil => rw [List.reverse_eq_nil_iff.mp hbs]; rfl
  | cons c cs =>
    have hhead := List.head?_dropWhile_not isBlank (bs.reverse ++ as.reverse)
    rw [← dropBlanks, hreverse, hbs] at hhead
    rw [dropFinalBlanks, hbs, dropBlanks_cons_of_not_isBlank hhead, ← hbs, List.reverse_reverse]

theorem mem_dropFinalBlanks_iff {c : Char} (h : isBlank c = false) {cs : List Char} :
    c ∈ dropFinalBlanks cs ↔ c ∈ cs := by
  rw [dropFinalBlanks, List.mem_reverse, mem_dropBlanks_iff h, List.mem_reverse]

/-! ## Both ends -/

theorem dropBlanks_dropFinalBlanks (cs : List Char) :
    dropBlanks (dropFinalBlanks cs) = dropFinalBlanks (dropBlanks cs) := by
  induction cs with
  | nil => rfl
  | cons c cs ih =>
    cases h : isBlank c with
    | true =>
      -- from the back the blank is reached only when nothing else is left
      rw [dropBlanks_cons_of_isBlank h, ← ih, dropFinalBlanks_cons_of_isBlank h]
      split
      next hnil => rw [hnil]
      next => rw [dropBlanks_cons_of_isBlank h]
    | false =>
      have hkept : dropFinalBlanks (c :: cs) = c :: dropFinalBlanks cs :=
        dropFinalBlanks_append_cons h [] cs
      rw [dropBlanks_cons_of_not_isBlank h, hkept, dropBlanks_cons_of_not_isBlank h]

theorem trimmed_dropFinalBlanks (cs : List Char) : trimmed (dropFinalBlanks cs) = trimmed cs := by
  rw [trimmed, dropBlanks_dropFinalBlanks, dropFinalBlanks_dropFinalBlanks, trimmed]

theorem dropFinalBlanks_trimmed (cs : List Char) : dropFinalBlanks (trimmed cs) = trimmed cs :=
  dropFinalBlanks_dropFinalBlanks _

theorem trimmed_append_of_isBlank {bs : List Char} (h : ∀ b ∈ bs, isBlank b = true)
    (cs : List Char) : trimmed (bs ++ cs) = trimmed cs := by
  rw [trimmed, dropBlanks, List.dropWhile_append_of_pos h, trimmed, dropBlanks]

theorem trimmed_append_of_isBlank_right {bs : List Char} (h : ∀ b ∈ bs, isBlank b = true)
    (cs : List Char) : trimmed (cs ++ bs) = trimmed cs := by
  have hreverse : ∀ b ∈ bs.reverse, isBlank b = true := fun b hb ↦ h b (List.mem_reverse.mp hb)
  have hdrop : dropFinalBlanks (cs ++ bs) = dropFinalBlanks cs := by
    rw [dropFinalBlanks, List.reverse_append, dropBlanks, List.dropWhile_append_of_pos hreverse,
      dropFinalBlanks, dropBlanks]
  rw [← trimmed_dropFinalBlanks, hdrop, trimmed_dropFinalBlanks]

theorem trimmed_trimmed (cs : List Char) : trimmed (trimmed cs) = trimmed cs := by
  rw [trimmed.eq_def cs, trimmed_dropFinalBlanks, trimmed, dropBlanks_dropBlanks]

@[simp] theorem trim_trim (s : String) : trim (trim s) = trim s := by
  rw [trim, toList_trim, trimmed_trimmed, ← trim]

theorem mem_trimmed_iff {c : Char} (h : isBlank c = false) {cs : List Char} :
    c ∈ trimmed cs ↔ c ∈ cs := by
  rw [trimmed, mem_dropFinalBlanks_iff h, mem_dropBlanks_iff h]

theorem mem_of_mem_trimmed {c : Char} {cs : List Char} (h : c ∈ trimmed cs) : c ∈ cs := by
  rw [trimmed, dropFinalBlanks, List.mem_reverse] at h
  have hreverse := List.mem_reverse.mp ((List.dropWhile_sublist isBlank).mem h)
  exact (List.dropWhile_sublist isBlank).mem hreverse

theorem trimmed_cons_of_not_isBlank {c : Char} (h : isBlank c = false) (cs : List Char) :
    trimmed (c :: cs) = c :: dropFinalBlanks cs := by
  rw [trimmed, dropBlanks_cons_of_not_isBlank h]
  exact dropFinalBlanks_append_cons h [] cs

theorem not_isBlank_of_trimmed_eq_cons {c : Char} {cs ds : List Char}
    (h : trimmed cs = c :: ds) : isBlank c = false := by
  have hfront : dropBlanks (trimmed cs) = c :: ds := by
    rw [trimmed, dropBlanks_dropFinalBlanks, dropBlanks_dropBlanks]
    exact h
  have hhead := List.head?_dropWhile_not isBlank (trimmed cs)
  rw [← dropBlanks, hfront] at hhead
  exact hhead

theorem trimmed_eq_self {cs : List Char} (h : ∀ c ∈ cs, isBlank c = false) : trimmed cs = cs := by
  have hdrop : ∀ {ds : List Char}, (∀ d ∈ ds, isBlank d = false) → dropBlanks ds = ds := by
    intro ds hds
    cases ds with
    | nil => rfl
    | cons d ds => exact dropBlanks_cons_of_not_isBlank (hds d List.mem_cons_self) ds
  rw [trimmed, hdrop h, dropFinalBlanks, hdrop fun c hc ↦ h c (List.mem_reverse.mp hc),
    List.reverse_reverse]

/-! ## Padding -/

/-- The second text is the first with blanks put before it and behind it. -/
def IsPadded (s padded : String) : Prop :=
  ∃ before after : List Char, (∀ b ∈ before, isBlank b = true) ∧ (∀ b ∈ after, isBlank b = true) ∧
    padded.toList = before ++ s.toList ++ after

theorem IsPadded.trimmed_eq {s padded : String} (h : IsPadded s padded) :
    trimmed padded.toList = trimmed s.toList := by
  obtain ⟨before, after, hbefore, hafter, hpadded⟩ := h
  rw [hpadded, trimmed_append_of_isBlank_right hafter, trimmed_append_of_isBlank hbefore]

end PropertyCatalog.Text
