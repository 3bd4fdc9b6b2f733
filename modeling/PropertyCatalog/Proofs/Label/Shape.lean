import Mathlib.Data.List.TakeWhile
import PropertyCatalog.Proofs.Label.Words
import PropertyCatalog.Proofs.Text.Ascii

/-!
# The shape of derived labels

A derived label is a row of words with one space between neighbours: the words of the last segment
in the form in which labels show them, the first of them capitalised.

In ASCII the row can be read back. Neither lower case nor the capital in front moves the boundaries
of a word or makes an acronym of it, or takes that from it (`IsSettled`), so a label is split into
the words it was made of. From there on it is made again.
-/

namespace PropertyCatalog.Label

open PropertyPath (lastSegment)
open Text

variable {c : Char} {cs w path : List Char}

/-! ## Rows of words -/

theorem capitalized_intercalate (hne : w ≠ []) (ws : List (List Char)) :
    capitalized (List.intercalate [' '] (w :: ws))
      = List.intercalate [' '] (capitalized w :: ws) := by
  obtain ⟨c, cs, rfl⟩ := List.exists_cons_of_ne_nil hne
  cases ws with
  | nil => simp only [List.intercalate_singleton]
  | cons v ws => simp only [List.intercalate_cons_cons, capitalized, List.cons_append,
      List.append_assoc]

theorem filter_intercalate {ws : List (List Char)} (h : ∀ w ∈ ws, IsWord w) :
    (List.intercalate [' '] ws).filter (· ≠ ' ') = ws.flatten := by
  induction ws with
  | nil => rfl
  | cons w ws ih =>
    obtain ⟨hw, hws⟩ := List.forall_mem_cons.mp h
    have hkept : w.filter (· ≠ ' ') = w := by
      refine List.filter_eq_self.mpr fun c hc ↦ decide_eq_true ?_
      rintro rfl
      exact absurd (hw.not_isBlank ' ' hc) (by decide)
    cases ws with
    | nil => rw [List.intercalate_singleton, hkept, List.flatten_singleton]
    | cons v ws =>
      rw [List.intercalate_cons_cons, List.filter_append, List.filter_append, hkept, ih hws,
        List.flatten_cons]
      simp

/-! ## The words of a label -/

def derivedWords (path : List Char) : List (List Char) :=
  ((words (lastSegment path)).map labelWord).modifyHead capitalized

theorem isWord_of_mem_derivedWords (hw : w ∈ derivedWords path) : IsWord w := by
  have hshown : ∀ v ∈ (words (lastSegment path)).map labelWord, IsWord v :=
    List.forall_mem_map.mpr fun v hv ↦ isWord_labelWord (isWord_of_mem_words hv)
  rw [derivedWords] at hw
  cases hws : (words (lastSegment path)).map labelWord with
  | nil => simp [hws] at hw
  | cons v vs =>
    rw [hws, List.modifyHead_cons] at hw
    obtain ⟨hv, hvs⟩ := List.forall_mem_cons.mp (hws ▸ hshown)
    rcases List.mem_cons.mp hw with rfl | hw
    · exact hv.capitalized
    · exact hvs w hw

theorem derivedChars_eq_intercalate (path : List Char) :
    derivedChars path = List.intercalate [' '] (derivedWords path) := by
  rw [derivedChars, derivedWords]
  cases hws : words (lastSegment path) with
  | nil => rfl
  | cons w ws =>
    have hw : IsWord w := isWord_of_mem_words (hws ▸ List.mem_cons_self)
    rw [List.map_cons, capitalized_intercalate (isWord_labelWord hw).ne_nil, List.modifyHead_cons]

theorem derivedChars_eq_nil_iff :
    derivedChars path = [] ↔ ∀ c ∈ lastSegment path, isSeparator c = true := by
  rw [derivedChars_eq_intercalate,
    intercalate_eq_nil_iff fun w hw ↦ (isWord_of_mem_derivedWords hw).ne_nil, ← words_eq_nil_iff,
    derivedWords]
  cases words (lastSegment path) <;> simp

/-! ## ASCII words -/

theorem isSeparator_toLower (h : c.toNat < 128) : isSeparator c.toLower = isSeparator c :=
  of_forall_ascii (p := fun c ↦ isSeparator c.toLower = isSeparator c) (by decide +kernel) h

theorem isSeparator_toUpper (h : c.toNat < 128) : isSeparator c.toUpper = isSeparator c :=
  of_forall_ascii (p := fun c ↦ isSeparator c.toUpper = isSeparator c) (by decide +kernel) h

/-- A small letter behind the first character keeps a word from being an acronym. -/
theorem not_isAcronym_of_tail (h : ∀ c ∈ cs.tail, isLetter c = true → isLower c = true) :
    isAcronym cs = false := by
  by_contra hacronym
  rw [Bool.not_eq_false, isAcronym, Bool.and_eq_true, decide_eq_true_eq, List.all_eq_true]
    at hacronym
  obtain ⟨hletters, hcapitals⟩ := hacronym
  have htail : 0 < cs.tail.countP isLetter := by
    cases cs with
    | nil => exact absurd hletters (by simp)
    | cons c cs =>
      rw [List.countP_cons] at hletters
      have hone : (if isLetter c = true then 1 else 0) ≤ 1 := by split <;> decide
      rw [List.tail_cons]
      omega
  obtain ⟨c, hc, hletter⟩ := List.countP_pos_iff.mp htail
  have hcapital := hcapitals c (List.mem_of_mem_tail hc)
  rw [h c hc hletter] at hcapital
  exact Bool.false_ne_true hcapital

theorem IsAscii.labelWord (h : IsAscii w) : IsAscii (labelWord w) := by
  rw [Label.labelWord]
  split
  · exact h
  · exact h.lowered_eq ▸ h.map_toLower

theorem map_toLower_labelWord (h : IsAscii w) :
    (labelWord w).map Char.toLower = w.map Char.toLower := by
  rw [Label.labelWord]
  split
  · rfl
  · rw [h.lowered_eq, h.map_toLower_map_toLower]

/-- A word as labels show it, which is found again as it is in any label: it is its own only word,
also with a capital in front, and in either form it is shown as it is. -/
structure IsSettled (w : List Char) : Prop where
  /-- It does not fall apart. -/
  words_eq : words w = [w]
  /-- It does not fall apart at the front of a label. -/
  words_capitalized : words (capitalized w) = [capitalized w]
  /-- It is shown as it is. -/
  labelWord_eq : labelWord w = w
  /-- Where it is capitalised, it is shown without the capital. -/
  labelWord_capitalized : labelWord (capitalized w) = w

/-- An acronym has no small letter that could become a capital. -/
theorem isSettled_of_isAcronym (hword : words w = [w]) (hascii : IsAscii w)
    (h : isAcronym w = true) : IsSettled w := by
  have hcapitalized : capitalized w = w := by
    cases w with
    | nil => rfl
    | cons c cs =>
      rw [isAcronym, Bool.and_eq_true, List.all_eq_true] at h
      have hlower : isLower c = false := by simpa using h.2 c List.mem_cons_self
      rw [hascii.capitalized_cons, toUpper_eq_self (isAscii_cons_iff.mp hascii).1 hlower]
  have hshown : labelWord w = w := if_pos h
  exact ⟨hword, hcapitalized.symm ▸ hword, hshown, hcapitalized.symm ▸ hshown⟩

/-- In lower case a word has no capital, and in front of a label it has one at most. -/
theorem isSettled_map_toLower (hne : w ≠ []) (hascii : IsAscii w)
    (hseparators : ∀ c ∈ w, isSeparator c = false) : IsSettled (w.map Char.toLower) := by
  obtain ⟨c, cs, rfl⟩ := List.exists_cons_of_ne_nil hne
  have hlowered : IsAscii ((c :: cs).map Char.toLower) := hascii.map_toLower
  have hcapitalized : capitalized ((c :: cs).map Char.toLower)
      = c.toLower.toUpper :: cs.map Char.toLower := hlowered.capitalized_cons
  obtain ⟨hc, hcs⟩ := isAscii_cons_iff.mp hascii
  obtain ⟨hc', hcs'⟩ := List.forall_mem_cons.mp hseparators
  have hrest : ∀ d ∈ cs.map Char.toLower, isSeparator d = false := by
    refine List.forall_mem_map.mpr fun d hd ↦ ?_
    rw [isSeparator_toLower (hcs d hd)]
    exact hcs' d hd
  have hnoCapital : ∀ d ∈ cs.map Char.toLower, isUpper d = false :=
    List.forall_mem_map.mpr fun d hd ↦ isUpper_toLower (hcs d hd)
  have hsmall : ∀ d ∈ cs.map Char.toLower, isLetter d = true → isLower d = true := by
    refine List.forall_mem_map.mpr fun d hd hletter ↦ ?_
    rwa [isLower_toLower (hcs d hd), ← isLetter_toLower (hcs d hd)]
  -- whatever the first character is, as long as it is no separator
  have hword : ∀ b, isSeparator b = false →
      words (b :: cs.map Char.toLower) = [b :: cs.map Char.toLower] := fun b hb ↦
    words_of_unbroken (List.cons_ne_nil b _) (List.forall_mem_cons.mpr ⟨hb, hrest⟩)
      (unbroken_of_tail [] hnoCapital)
  have hshown : ∀ b, labelWord (b :: cs.map Char.toLower) = lowered (b :: cs.map Char.toLower) :=
    fun b ↦ if_neg (Bool.not_eq_true _ ▸ not_isAcronym_of_tail hsmall)
  constructor
  case words_eq => exact hword _ ((isSeparator_toLower hc).trans hc')
  case words_capitalized =>
    rw [hcapitalized]
    refine hword _ ?_
    rw [isSeparator_toUpper (toNat_toLower_lt hc), isSeparator_toLower hc]
    exact hc'
  case labelWord_eq => rw [List.map_cons, hshown, ← List.map_cons, hlowered.lowered_eq,
    hascii.map_toLower_map_toLower]
  case labelWord_capitalized =>
    rw [hcapitalized, hshown, ← hcapitalized, hlowered.capitalized.lowered_eq,
      hlowered.map_toLower_capitalized, hascii.map_toLower_map_toLower]

theorem isSettled_labelWord (hw : w ∈ words cs) (hascii : IsAscii w) : IsSettled (labelWord w) := by
  by_cases hacronym : isAcronym w = true
  · have hshown : labelWord w = w := if_pos hacronym
    rw [hshown]
    exact isSettled_of_isAcronym (words_of_mem_words hw) hascii hacronym
  · have hshown : labelWord w = lowered w := if_neg hacronym
    obtain ⟨hne, hseparators⟩ := not_isSeparator_of_mem_wordsAfter (by exact nofun) hw
    rw [hshown, hascii.lowered_eq]
    exact isSettled_map_toLower hne hascii hseparators

/-! ## ASCII labels -/

theorem isAscii_of_mem_words (h : IsAscii cs) (hw : w ∈ words cs) : IsAscii w := by
  refine h.of_subset fun c hc ↦ ?_
  have hflatten : c ∈ (words cs).flatten := List.mem_flatten_of_mem hw hc
  rw [flatten_words] at hflatten
  exact List.mem_of_mem_filter hflatten

theorem words_derivedChars (h : IsAscii (lastSegment path)) :
    words (derivedChars path) = derivedWords path ∧
      (derivedWords path).map labelWord = (words (lastSegment path)).map labelWord := by
  have hsettled : ∀ v ∈ (words (lastSegment path)).map labelWord, IsSettled v :=
    List.forall_mem_map.mpr fun w hw ↦ isSettled_labelWord hw (isAscii_of_mem_words h hw)
  rw [derivedChars_eq_intercalate, derivedWords]
  cases hshown : (words (lastSegment path)).map labelWord with
  | nil => exact ⟨rfl, rfl⟩
  | cons v vs =>
    obtain ⟨hv, hvs⟩ := List.forall_mem_cons.mp (hshown ▸ hsettled)
    rw [List.modifyHead_cons]
    constructor
    · exact words_intercalate
        (List.forall_mem_cons.mpr ⟨hv.words_capitalized, fun u hu ↦ (hvs u hu).words_eq⟩)
    · have hrest : vs.map labelWord = vs :=
        (List.map_congr_left fun u hu ↦ (hvs u hu).labelWord_eq).trans (List.map_id' vs)
      rw [List.map_cons, hv.labelWord_capitalized, hrest]

theorem map_toLower_derivedChars (h : IsAscii (lastSegment path)) :
    ((derivedChars path).filter (· ≠ ' ')).map Char.toLower
      = ((lastSegment path).filter (!isSeparator ·)).map Char.toLower := by
  have hascii : ∀ w ∈ words (lastSegment path), IsAscii w := fun _ ↦ isAscii_of_mem_words h
  rw [derivedChars_eq_intercalate, filter_intercalate fun w hw ↦ isWord_of_mem_derivedWords hw,
    ← flatten_words, List.map_flatten, List.map_flatten, derivedWords]
  congr 1
  cases hwords : words (lastSegment path) with
  | nil => rfl
  | cons w ws =>
    obtain ⟨hw, hws⟩ := List.forall_mem_cons.mp (hwords ▸ hascii)
    rw [List.map_cons, List.modifyHead_cons, List.map_cons, List.map_cons, List.map_map,
      (IsAscii.labelWord hw).map_toLower_capitalized, map_toLower_labelWord hw]
    exact congrArg (_ :: ·) (List.map_congr_left fun v hv ↦ map_toLower_labelWord (hws v hv))

theorem isAscii_intercalate {ws : List (List Char)} (h : ∀ w ∈ ws, IsAscii w) :
    IsAscii (List.intercalate [' '] ws) := by
  induction ws with
  | nil => exact nofun
  | cons w ws ih =>
    obtain ⟨hw, hws⟩ := List.forall_mem_cons.mp h
    cases ws with
    | nil => rwa [List.intercalate_singleton]
    | cons v ws =>
      rw [List.intercalate_cons_cons, List.append_assoc, List.singleton_append]
      exact List.forall_mem_append.mpr ⟨hw, isAscii_cons_iff.mpr ⟨by decide, ih hws⟩⟩

theorem isAscii_derivedChars (h : IsAscii (lastSegment path)) : IsAscii (derivedChars path) := by
  refine (isAscii_intercalate (List.forall_mem_map.mpr fun w hw ↦ ?_)).capitalized
  exact IsAscii.labelWord (isAscii_of_mem_words h hw)

theorem dot_notMem_lastSegment (path : List Char) : '.' ∉ lastSegment path := by
  rw [lastSegment, List.mem_reverse]
  intro hdot
  have hne := List.mem_takeWhile_imp hdot
  exact of_decide_eq_true hne rfl

theorem lastSegment_eq_self (h : '.' ∉ path) : lastSegment path = path := by
  have hall : ∀ c ∈ path.reverse, decide (c ≠ '.') = true := by
    intro c hc
    refine decide_eq_true ?_
    rintro rfl
    exact h (List.mem_reverse.mp hc)
  rw [lastSegment, List.takeWhile_eq_self_iff.mpr hall, List.reverse_reverse]

theorem dot_notMem_derivedChars (h : IsAscii (lastSegment path)) : '.' ∉ derivedChars path := by
  intro hdot
  have hmem : '.' ∈ ((lastSegment path).filter (!isSeparator ·)).map Char.toLower := by
    rw [← map_toLower_derivedChars h]
    exact List.mem_map.mpr ⟨'.', List.mem_filter.mpr ⟨hdot, by decide⟩, by decide⟩
  obtain ⟨c, hc, hlower⟩ := List.mem_map.mp hmem
  have hsegment : c ∈ lastSegment path := List.mem_of_mem_filter hc
  obtain rfl : c = '.' := of_forall_ascii (p := fun c ↦ c.toLower = '.' → c = '.')
    (by decide +kernel) (h c hsegment) hlower
  exact dot_notMem_lastSegment path hsegment

theorem derivedChars_derivedChars (h : IsAscii (lastSegment path)) :
    derivedChars (derivedChars path) = derivedChars path := by
  obtain ⟨hwords, hshown⟩ := words_derivedChars h
  rw [derivedChars.eq_def (derivedChars path), lastSegment_eq_self (dot_notMem_derivedChars h),
    hwords, hshown, ← derivedChars]

/-- **The shape of a derived label.** A label that is derived from a path is a row of words with one
space between neighbours and nothing around them. It is empty exactly where the last segment of the
path holds nothing but hyphens, underscores and blanks. In ASCII it has the letters of the segment
and whatever else is no separator there, capitals and small letters apart, and the label derived
from it is the label itself. -/
theorem derived_shape (path : String) :
    let segment := lastSegment path.toList
    let label := derived path
    (trim label = label ∧
        ∃ ws, (∀ w ∈ ws, IsWord w) ∧ label.toList = List.intercalate [' '] ws) ∧
      (label = "" ↔ ∀ c ∈ segment, c = '-' ∨ c = '_' ∨ isBlank c = true) ∧
      (IsAscii segment →
        lowered (label.toList.filter (· ≠ ' ')) = lowered (segment.filter (!isSeparator ·)) ∧
          derived label = label) := by
  intro segment label
  have hlabel : label.toList = derivedChars path.toList := String.toList_ofList
  refine ⟨⟨trim_derived path, derivedWords path.toList, ?_, ?_⟩, ?_, fun hascii ↦ ⟨?_, ?_⟩⟩
  · exact fun w ↦ isWord_of_mem_derivedWords
  · rw [hlabel, derivedChars_eq_intercalate]
  · rw [← String.toList_eq_nil_iff, hlabel, derivedChars_eq_nil_iff]
    simp only [isSeparator, Bool.or_eq_true, decide_eq_true_eq, or_assoc, segment]
  · have hletters : IsAscii ((derivedChars path.toList).filter (· ≠ ' ')) :=
      (isAscii_derivedChars hascii).of_subset (List.filter_subset_self _)
    rw [hlabel, hletters.lowered_eq, map_toLower_derivedChars hascii]
    exact (hascii.of_subset (List.filter_subset_self _)).lowered_eq.symm
  · rw [derived, hlabel, derivedChars_derivedChars hascii]
    rfl

/-- A segment with an acronym between words, a digit that belongs to one, and separators. -/
theorem derived_shape_acronym :
    let segment := lastSegment "db.maxHTTPPort_-2x ".toList
    let label := derived "db.maxHTTPPort_-2x "
    segment = "maxHTTPPort_-2x ".toList ∧ label = "Max HTTP port 2x" ∧ IsAscii segment ∧
      trim label = label ∧
      lowered (label.toList.filter (· ≠ ' ')) = lowered (segment.filter (!isSeparator ·)) ∧
      derived label = label := by
  intro segment label
  have hascii : IsAscii segment := by decide +kernel
  obtain ⟨⟨htrim, -⟩, -, hletters⟩ := derived_shape "db.maxHTTPPort_-2x "
  exact ⟨by decide +kernel, by decide +kernel, hascii, htrim, hletters hascii⟩

-- outside ASCII a capital in front can be two, between which the next label breaks the word
example : derived "ßa" = "SSa" ∧ derived "SSa" = "S sa" := by decide +kernel

end PropertyCatalog.Label
