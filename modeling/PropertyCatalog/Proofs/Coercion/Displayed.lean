import PropertyCatalog.Proofs.Coercion.Integer
import PropertyCatalog.Proofs.Duration.Written

/-!
# Displayed values

A typed value is judged by what it is, the text that it is shown as by what can be read off it. The
text of an integer is digits, perhaps behind a minus, and that of a duration is digits with a unit
behind them; so it is known of each which of the three notations it follows
(`isIntegerText_toString`, `readBoolean?_eq_none_of_isDigit`,
`Duration.isSome_readMillis?_of_toDigits`). The two judgements agree but for one case
(`BoundValue.coercesTo_display_exact`): a written duration has to fit into 64 bits of milliseconds,
and a duration does not.
-/

namespace PropertyCatalog

open Text

/-! ## Integers and truth values off a text -/

theorem isIntegerText_toString (n : Int) : isIntegerText (toString n) = isWide n := by
  rw [isIntegerText, trimmed_toString, integer?_eq_some_iff.mpr (isNumeral_toString n),
    Option.any_some]

theorem isIntegerText_eq_false_of_mem {text : String} {c : Char} (hc : c ∈ text.toList)
    (hblank : isBlank c = false) (hdigit : c.isDigit = false) (hsign : c ∉ ['+', '-']) :
    isIntegerText text = false := by
  rw [isIntegerText, ← Bool.not_eq_true, any_isWide_integer?_iff]
  rintro ⟨n, hnumeral, -⟩
  rcases hnumeral.isDigit_or_mem ((mem_trimmed_iff hblank).mpr hc) with h | h
  · rw [hdigit] at h
    exact Bool.false_ne_true h
  · exact hsign h

theorem toLower_of_isDigit {c : Char} (h : c.isDigit = true) : c.toLower = c := by
  obtain ⟨-, hle⟩ := Char.isDigit_iff_toNat.mp h
  have hlt : c.toNat < 'A'.toNat := Nat.lt_of_le_of_lt hle (by decide)
  refine dif_neg fun hcapital ↦ ?_
  exact absurd (UInt32.le_iff_toNat_le.mp hcapital.1) (Nat.not_le.mpr hlt)

theorem readBoolean?_eq_none_of_isDigit {text : String} {c : Char} (hc : c ∈ text.toList)
    (hdigit : c.isDigit = true) : readBoolean? text = none := by
  have hmem : c ∈ (asciiLower (trim text)).toList := by
    rw [asciiLower, String.toList_map, toList_trim, List.mem_map]
    exact ⟨c, (mem_trimmed_iff (not_isBlank_of_isDigit hdigit)).mpr hc, toLower_of_isDigit hdigit⟩
  have hne {word : String} (hword : word.toList.all (!·.isDigit) = true) :
      asciiLower (trim text) ≠ word := by
    intro heq
    have hnot := List.all_eq_true.mp hword c (heq ▸ hmem)
    rw [hdigit] at hnot
    exact Bool.false_ne_true hnot
  rw [readBoolean?, if_neg (hne (by decide)), if_neg (hne (by decide))]

/-! ## Durations off a text -/

namespace Duration

/-- A written duration is read unless it is too great. -/
theorem isSome_readMillis?_of_isWritten {text : String} {digits blanks unit : List Char}
    {factor : Nat} (h : IsWritten (trimmed text.toList) digits blanks unit)
    (hunit : IsUnit unit factor) :
    (readMillis? text).isSome = true ↔
      Nat.ofDigitChars 10 digits 0 < UInt64.size ∧
        Nat.ofDigitChars 10 digits 0 * factor < UInt64.size := by
  have hdigits : digits? digits = some (Nat.ofDigitChars 10 digits 0) :=
    digits?_eq_some_iff.mpr ⟨h.digits_ne_nil, h.isDigit, rfl⟩
  have hfactor : unitMillis? (trimmed (blanks ++ unit)) = some factor := by
    rw [trimmed_append_of_isBlank h.isBlank, hunit.trimmed_eq]
    exact unitMillis?_eq_some_iff.mpr hunit
  rw [readMillis?, Option.isSome_iff_exists]
  simp only [millisOf?_eq_some_iff, h.takeWhile_isDigit hunit, h.dropWhile_isDigit hunit, hdigits,
    hfactor]
  constructor
  · rintro ⟨_, _, _, ⟨⟩, ⟨⟩, hamount, hproduct, -⟩
    exact ⟨hamount, hproduct⟩
  · rintro ⟨hamount, hproduct⟩
    exact ⟨_, _, _, rfl, rfl, hamount, hproduct, rfl⟩

/-- A number of milliseconds is read off its digits, with the unit or without, if it fits into 64
bits. -/
theorem isSome_readMillis?_of_toDigits {text : String} {m : Nat} {unit : List Char}
    (htext : text.toList = Nat.toDigits 10 m ++ unit) (hunit : IsUnit unit 1) :
    (readMillis? text).isSome = true ↔ m < UInt64.size := by
  have hblank : ∀ c ∈ text.toList, isBlank c = false := by
    rw [htext]
    intro c hc
    rcases List.mem_append.mp hc with hc | hc
    · exact not_isBlank_of_isDigit (isDigit_of_mem_toDigits c hc)
    · have hall : unit.all (!isBlank ·) = true := by cases hunit <;> decide
      exact Bool.not_eq_true' _ ▸ List.all_eq_true.mp hall c hc
  have hwritten : IsWritten (trimmed text.toList) (Nat.toDigits 10 m) [] unit := by
    rw [trimmed_eq_self hblank]
    exact ⟨htext, Nat.toDigits_ne_nil, isDigit_of_mem_toDigits, nofun⟩
  rw [isSome_readMillis?_of_isWritten hwritten hunit, Nat.ofDigitChars_ten_toDigits, Nat.mul_one,
    and_self]

theorem isSome_readMillis?_toString (n : Int) :
    (readMillis? (toString n)).isSome = true ↔ 0 ≤ n ∧ n ≤ 2 ^ 64 - 1 := by
  by_cases h : 0 ≤ n
  · have htext : (toString n).toList = Nat.toDigits 10 n.toNat ++ [] := by
      rw [toList_toString_of_nonneg h, List.append_nil]
    rw [isSome_readMillis?_of_toDigits htext .bare, UInt64.size]
    omega
  · -- nothing stands in front of the minus, so there is no number
    have htext := toList_toString_of_neg (Int.not_le.mp h)
    have hnone : readMillis? (toString n) = none := by
      rw [readMillis?, trimmed_toString, htext]
      rfl
    rw [hnone]
    exact iff_of_false Bool.false_ne_true fun hle ↦ h hle.1

end Duration

/-! ## Typed values -/

namespace BoundValue

/-- The value is no text, so it has a type already. -/
inductive IsTyped : BoundValue → Prop
  | integer (n : Int64) : IsTyped (.integer n)
  | boolean (b : Bool) : IsTyped (.boolean b)
  | duration (d : Duration) : IsTyped (.duration d)

/-- The value is a duration whose milliseconds do not fit into 64 bits. -/
def IsLong (value : BoundValue) : Prop := ∃ d : Duration, value = .duration d ∧ 2 ^ 64 ≤ d.millis

variable {value : BoundValue} {type : SemanticType} {members : List String}

theorem toList_display_duration (d : Duration) :
    (duration d).display.toList = Nat.toDigits 10 d.millis ++ ['m', 's'] := by
  rw [display, String.toList_append, Nat.toString_eq_repr, Nat.toList_repr]
  rfl

theorem coercesTo_display_integer (hpath : type ≠ .path) (henum : type ≠ .enum) (n : Int64) :
    (integer n).coercesTo type members
      = (text (integer n).display).coercesTo type members := by
  have hmin := n.le_toInt
  have hmax := n.toInt_lt
  cases type with
  | path => exact absurd rfl hpath
  | enum => exact absurd rfl henum
  | string | group => rfl
  | integer =>
    have hwide : isWide n.toInt = true := isWide_iff.mpr ⟨by omega, by omega⟩
    exact (isIntegerText_toString n.toInt ▸ hwide).symm
  | boolean =>
    obtain ⟨c, hc, hdigit⟩ := exists_isDigit_mem_toString n.toInt
    have hnone : readBoolean? (toString n.toInt) = none := readBoolean?_eq_none_of_isDigit hc hdigit
    exact (congrArg Option.isSome hnone).symm
  | duration =>
    have hmillis : (Duration.readMillis? (toString n.toInt)).isSome = true ↔ 0 ≤ n.toInt := by
      rw [Duration.isSome_readMillis?_toString]
      exact ⟨And.left, fun h ↦ ⟨h, by omega⟩⟩
    rw [Bool.eq_iff_iff]
    exact decide_eq_true_iff.trans hmillis.symm

theorem coercesTo_display_boolean (hpath : type ≠ .path) (henum : type ≠ .enum) (b : Bool) :
    (boolean b).coercesTo type members
      = (text (boolean b).display).coercesTo type members := by
  cases type with
  | path => exact absurd rfl hpath
  | enum => exact absurd rfl henum
  | string | group => rfl
  | integer => cases b <;> rfl
  | boolean =>
    have hread : readBoolean? (boolean b).display = some b := by cases b <;> decide +kernel
    exact (congrArg Option.isSome hread).symm
  | duration => cases b <;> rfl

theorem coercesTo_display_duration (hpath : type ≠ .path) (henum : type ≠ .enum)
    (hduration : type ≠ .duration) (d : Duration) :
    (duration d).coercesTo type members
      = (text (duration d).display).coercesTo type members := by
  have hlist := toList_display_duration d
  cases type with
  | path => exact absurd rfl hpath
  | enum => exact absurd rfl henum
  | duration => exact absurd rfl hduration
  | string | group => rfl
  | integer =>
    have hletter : 's' ∈ (duration d).display.toList := by
      rw [hlist]
      exact List.mem_append_right _ (by decide)
    exact (isIntegerText_eq_false_of_mem hletter (by decide) (by decide) (by decide)).symm
  | boolean =>
    obtain ⟨c, hc⟩ := List.exists_mem_of_ne_nil _ (Nat.toDigits_ne_nil (n := d.millis) (b := 10))
    have hmem : c ∈ (duration d).display.toList := by
      rw [hlist]
      exact List.mem_append_left _ hc
    have hnone := readBoolean?_eq_none_of_isDigit hmem (isDigit_of_mem_toDigits c hc)
    exact (congrArg Option.isSome hnone).symm

theorem coercesTo_duration_display_iff (d : Duration) :
    (text (duration d).display).coercesTo .duration members = true ↔ d.millis < 2 ^ 64 :=
  Duration.isSome_readMillis?_of_toDigits (toList_display_duration d) .millis

/-- **Typed values and their texts are judged alike**, by any type but paths and enumerations, with
one exception: a duration that is too long for 64 bits of milliseconds is a duration, and its text
is none. For paths and enumerations only texts will do. -/
theorem coercesTo_display_exact (h : value.IsTyped) (type : SemanticType) (members : List String) :
    (type ≠ .path → type ≠ .enum →
      (value.coercesTo type members = (text value.display).coercesTo type members ↔
        ¬(type = .duration ∧ value.IsLong))) ∧
    (value.IsLong → value.coercesTo .duration members = true ∧
      (text value.display).coercesTo .duration members = false) ∧
    (type = .path ∨ type = .enum → value.coercesTo type members = false) := by
  have hlong : value.IsLong → value.coercesTo .duration members = true ∧
      (text value.display).coercesTo .duration members = false := by
    rintro ⟨d, rfl, hd⟩
    rw [← Bool.not_eq_true, coercesTo_duration_display_iff]
    exact ⟨rfl, Nat.not_lt.mpr hd⟩
  refine ⟨fun hpath henum ↦ ⟨?_, fun hnot ↦ ?_⟩, hlong, ?_⟩
  · rintro heq ⟨rfl, hvalue⟩
    rw [(hlong hvalue).1, (hlong hvalue).2] at heq
    cases heq
  · cases h with
    | integer n => exact coercesTo_display_integer hpath henum n
    | boolean b => exact coercesTo_display_boolean hpath henum b
    | duration d =>
      by_cases hduration : type = .duration
      · subst hduration
        have hshort : d.millis < 2 ^ 64 := Nat.not_le.mp fun hd ↦ hnot ⟨rfl, d, rfl, hd⟩
        exact (coercesTo_duration_display_iff d).mpr hshort |>.symm
      · exact coercesTo_display_duration hpath henum hduration d
  · cases h <;> rintro (rfl | rfl) <;> rfl

/-- The shortest duration that parts from its text: it still agrees with it for integers. -/
theorem coercesTo_display_exact_shortest :
    let value : BoundValue := .duration ⟨2 ^ 64 * nanosPerMilli, by decide⟩
    value.IsTyped ∧ value.IsLong ∧
      value.coercesTo .integer [] = (text value.display).coercesTo .integer [] ∧
      value.coercesTo .duration [] = true ∧
      (text value.display).coercesTo .duration [] = false ∧
      value.coercesTo .path [] = false := by
  intro value
  have htyped : value.IsTyped := .duration _
  have hlong : value.IsLong := ⟨_, rfl, by decide⟩
  obtain ⟨hagree, hpart, -⟩ := coercesTo_display_exact htyped .integer []
  obtain ⟨-, -, hrefused⟩ := coercesTo_display_exact htyped .path []
  exact ⟨htyped, hlong, (hagree (by decide) (by decide)).mpr fun h ↦ absurd h.1 (by decide),
    (hpart hlong).1, (hpart hlong).2, hrefused (.inl rfl)⟩

end BoundValue

end PropertyCatalog
