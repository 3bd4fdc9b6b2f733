import Mathlib.Data.List.Basic
import PropertyCatalog.Text.Letter
import PropertyCatalog.Text.LetterCase

/-!
# ASCII texts

For the first 128 characters the tables of Unicode say no more than what `Char` says of them: the
letters are `A` to `Z` and `a` to `z`, and the two cases of a letter lie 32 apart. Only the heads of
the tables matter here, because the rest of each begins behind these characters. Changing case goes
through an ASCII text character by character, for the only letter whose lower case has a context is
not among them.
-/

namespace PropertyCatalog.Text

/-- The text holds ASCII characters only. -/
def IsAscii (cs : List Char) : Prop := ∀ c ∈ cs, c.toNat < 128

instance (cs : List Char) : Decidable (IsAscii cs) :=
  List.decidableBAll (fun c : Char ↦ c.toNat < 128) cs

variable {c : Char} {cs : List Char}

/-! ## Tables -/

/-- The spans that begin behind the ASCII characters need not be looked at. -/
theorem inSpans_eq_take {spans : List Span} {k : Nat}
    (hlate : (spans.drop k).all (128 ≤ ·.first) = true) (h : c.toNat < 128) :
    inSpans spans c = inSpans (spans.take k) c := by
  have hdrop : (spans.drop k).any (·.contains c.toNat) = false := by
    refine List.any_eq_false.mpr fun s hs hcontains ↦ ?_
    have hfirst := of_decide_eq_true (List.all_eq_true.mp hlate s hs)
    simp only [Span.contains, Bool.and_eq_true, decide_eq_true_eq] at hcontains
    omega
  rw [inSpans, ← List.take_append_drop k spans, List.any_append, hdrop, Bool.or_false, inSpans,
    List.take_append_drop]

/-- Neither need the shifts and the expansions. -/
theorem mapCase_eq_take {shifts : List Shift} {expansions : List (Nat × List Nat)} {k : Nat}
    (hlate : (shifts.drop k).all (128 ≤ ·.span.first) = true)
    (hexpansions : expansions.all (128 ≤ ·.1) = true) (h : c.toNat < 128) :
    mapCase shifts expansions c = mapCase (shifts.take k) [] c := by
  have hlookup : expansions.lookup c.toNat = none := by
    refine List.lookup_eq_none_iff.mpr fun e he ↦ ?_
    have hkey := of_decide_eq_true (List.all_eq_true.mp hexpansions e he)
    simp only [bne_iff_ne, ne_eq]
    omega
  have hdrop : (shifts.drop k).find? (·.span.contains c.toNat) = none := by
    refine List.find?_eq_none.mpr fun s hs hcontains ↦ ?_
    have hfirst := of_decide_eq_true (List.all_eq_true.mp hlate s hs)
    simp only [Span.contains, Bool.and_eq_true, decide_eq_true_eq] at hcontains
    omega
  have hfind : shifts.find? (·.span.contains c.toNat)
      = (shifts.take k).find? (·.span.contains c.toNat) := by
    conv_lhs => rw [← List.take_append_drop k shifts]
    rw [List.find?_append, hdrop, Option.or_none]
  simp only [mapCase, hlookup, List.lookup_nil, shiftBy, hfind]

/-! ## Single characters -/

theorem of_forall_ascii {p : Char → Prop} (h : ∀ n : Fin 128, p (Char.ofNat n))
    (hc : c.toNat < 128) : p c := by
  have hp := h ⟨c.toNat, hc⟩
  rwa [Char.ofNat_toNat] at hp

/-- The tables say the same of the character as `Char` does. -/
structure Agrees (c : Char) : Prop where
  /-- Capitals are capitals. -/
  isUpper_eq : isUpper c = c.isUpper
  /-- Small letters are small letters. -/
  isLower_eq : isLower c = c.isLower
  /-- Letters are letters. -/
  isLetter_eq : isLetter c = c.isAlpha
  /-- The lower case of the character is one character. -/
  lowerChar_eq : lowerChar c = [c.toLower]
  /-- The upper case of the character is one character. -/
  upperChar_eq : upperChar c = [c.toUpper]

theorem agrees_of_lt (h : c.toNat < 128) : Agrees c := by
  obtain ⟨hupper, hlower, hletter, hlowerChar, hupperChar⟩ :=
    of_forall_ascii (p := fun c ↦ inSpans (upperSpans.take 1) c = c.isUpper ∧
      inSpans (lowerSpans.take 1) c = c.isLower ∧ inSpans (letterSpans.take 2) c = c.isAlpha ∧
      mapCase (lowerShifts.take 1) [] c = [c.toLower] ∧
      mapCase (upperShifts.take 1) [] c = [c.toUpper]) (by decide +kernel) h
  exact {
    isUpper_eq := (inSpans_eq_take (by decide +kernel) h).trans hupper
    isLower_eq := (inSpans_eq_take (by decide +kernel) h).trans hlower
    isLetter_eq := (inSpans_eq_take (by decide +kernel) h).trans hletter
    lowerChar_eq :=
      (mapCase_eq_take (by decide +kernel) (by decide +kernel) h).trans hlowerChar
    upperChar_eq :=
      (mapCase_eq_take (by decide +kernel) (by decide +kernel) h).trans hupperChar }

theorem toNat_toLower_lt (h : c.toNat < 128) : c.toLower.toNat < 128 :=
  of_forall_ascii (p := fun c ↦ c.toLower.toNat < 128) (by decide) h

theorem toNat_toUpper_lt (h : c.toNat < 128) : c.toUpper.toNat < 128 :=
  of_forall_ascii (p := fun c ↦ c.toUpper.toNat < 128) (by decide) h

theorem toLower_toUpper (h : c.toNat < 128) : c.toUpper.toLower = c.toLower :=
  of_forall_ascii (p := fun c ↦ c.toUpper.toLower = c.toLower) (by decide) h

theorem toLower_toLower (h : c.toNat < 128) : c.toLower.toLower = c.toLower :=
  of_forall_ascii (p := fun c ↦ c.toLower.toLower = c.toLower) (by decide) h

theorem toUpper_eq_self (h : c.toNat < 128) (hlower : isLower c = false) : c.toUpper = c := by
  rw [(agrees_of_lt h).isLower_eq] at hlower
  exact of_forall_ascii (p := fun c ↦ c.isLower = false → c.toUpper = c) (by decide) h hlower

theorem isUpper_toLower (h : c.toNat < 128) : isUpper c.toLower = false := by
  rw [(agrees_of_lt (toNat_toLower_lt h)).isUpper_eq]
  exact of_forall_ascii (p := fun c ↦ c.toLower.isUpper = false) (by decide) h

theorem isLetter_toLower (h : c.toNat < 128) : isLetter c.toLower = isLetter c := by
  rw [(agrees_of_lt (toNat_toLower_lt h)).isLetter_eq, (agrees_of_lt h).isLetter_eq]
  exact of_forall_ascii (p := fun c ↦ c.toLower.isAlpha = c.isAlpha) (by decide) h

theorem isLower_toLower (h : c.toNat < 128) : isLower c.toLower = isLetter c := by
  rw [(agrees_of_lt (toNat_toLower_lt h)).isLower_eq, (agrees_of_lt h).isLetter_eq]
  exact of_forall_ascii (p := fun c ↦ c.toLower.isLower = c.isAlpha) (by decide) h

/-! ## Texts -/

theorem isAscii_cons_iff : IsAscii (c :: cs) ↔ c.toNat < 128 ∧ IsAscii cs := List.forall_mem_cons

theorem IsAscii.of_subset {ds : List Char} (h : IsAscii cs) (hsub : ds ⊆ cs) : IsAscii ds :=
  fun d hd ↦ h d (hsub hd)

theorem IsAscii.map_toLower (h : IsAscii cs) : IsAscii (cs.map Char.toLower) :=
  List.forall_mem_map.mpr fun c hc ↦ toNat_toLower_lt (h c hc)

theorem lowerAfter_of_isAscii (before : List Char) (h : IsAscii cs) :
    lowerAfter before cs = cs.map Char.toLower := by
  induction cs generalizing before with
  | nil => rfl
  | cons c cs ih =>
    obtain ⟨hc, hcs⟩ := isAscii_cons_iff.mp h
    have hsigma : c ≠ 'Σ' := by
      rintro rfl
      exact absurd hc (by decide)
    rw [lowerAfter, if_neg hsigma, (agrees_of_lt hc).lowerChar_eq, ih _ hcs]
    rfl

theorem IsAscii.lowered_eq (h : IsAscii cs) : lowered cs = cs.map Char.toLower :=
  lowerAfter_of_isAscii [] h

theorem IsAscii.capitalized_cons (h : IsAscii (c :: cs)) :
    capitalized (c :: cs) = c.toUpper :: cs := by
  rw [capitalized, (agrees_of_lt (isAscii_cons_iff.mp h).1).upperChar_eq, List.singleton_append]

theorem IsAscii.capitalized (h : IsAscii cs) : IsAscii (capitalized cs) := by
  cases cs with
  | nil => exact nofun
  | cons c cs =>
    obtain ⟨hc, hcs⟩ := isAscii_cons_iff.mp h
    rw [h.capitalized_cons]
    exact isAscii_cons_iff.mpr ⟨toNat_toUpper_lt hc, hcs⟩

/-- Whether a text is capitalised is lost in lower case. -/
theorem IsAscii.map_toLower_capitalized (h : IsAscii cs) :
    (Text.capitalized cs).map Char.toLower = cs.map Char.toLower := by
  cases cs with
  | nil => rfl
  | cons c cs =>
    rw [h.capitalized_cons, List.map_cons, toLower_toUpper (isAscii_cons_iff.mp h).1,
      List.map_cons]

theorem IsAscii.map_toLower_map_toLower (h : IsAscii cs) :
    (cs.map Char.toLower).map Char.toLower = cs.map Char.toLower := by
  rw [List.map_map]
  exact List.map_congr_left fun c hc ↦ toLower_toLower (h c hc)

end PropertyCatalog.Text
