import PropertyCatalog.Duration
import PropertyCatalog.Proofs.Text.Numeral

/-!
# Milliseconds in 64-bit words

Durations are read into unbounded numbers that are held against a bound afterwards. The same reading
in words of 64 bits takes the digits one by one and gives up at the first product or sum that does
not fit (`wordMillisOf?`). It never sees the whole number, and yet it refuses no text too many: what
has been read of the digits is at most the number that they come to (`le_ofDigitChars`), so if a
step overflows, the number does. Hence both readings agree (`map_toNat_wordMillisOf?`), and no word
in between is ever cut off.
-/

namespace PropertyCatalog.Duration

open Text

/-! ## Steps that are checked -/

/-- The sum of two words, if it is a word. -/
def plusWord? (a b : UInt64) : Option UInt64 :=
  if a.toNat + b.toNat < UInt64.size then some (a + b) else none

/-- The product of two words, if it is a word. -/
def timesWord? (a b : UInt64) : Option UInt64 :=
  if a.toNat * b.toNat < UInt64.size then some (a * b) else none

variable {a b k n : UInt64}

theorem plusWord?_eq_some_iff : plusWord? a b = some k ↔ k.toNat = a.toNat + b.toNat := by
  rw [plusWord?, Option.ite_none_right_eq_some, Option.some_inj]
  constructor
  · rintro ⟨hlt, rfl⟩
    rw [UInt64.toNat_add, Nat.mod_eq_of_lt hlt]
  · intro h
    have hlt : a.toNat + b.toNat < UInt64.size := h ▸ k.toNat_lt
    refine ⟨hlt, UInt64.toNat_inj.mp ?_⟩
    rw [UInt64.toNat_add, Nat.mod_eq_of_lt hlt, h]

theorem timesWord?_eq_some_iff : timesWord? a b = some k ↔ k.toNat = a.toNat * b.toNat := by
  rw [timesWord?, Option.ite_none_right_eq_some, Option.some_inj]
  constructor
  · rintro ⟨hlt, rfl⟩
    rw [UInt64.toNat_mul, Nat.mod_eq_of_lt hlt]
  · intro h
    have hlt : a.toNat * b.toNat < UInt64.size := h ▸ k.toNat_lt
    refine ⟨hlt, UInt64.toNat_inj.mp ?_⟩
    rw [UInt64.toNat_mul, Nat.mod_eq_of_lt hlt, h]

theorem exists_toNat_eq {m : Nat} (h : m ≤ k.toNat) : ∃ w : UInt64, w.toNat = m :=
  ⟨.ofNat m, UInt64.toNat_ofNat_of_lt' (Nat.lt_of_le_of_lt h k.toNat_lt)⟩

/-! ## Digits -/

def digitWord (c : Char) : UInt64 := .ofNat (c.toNat - '0'.toNat)

/-- A number with one digit more. -/
def appendDigit? (n : UInt64) (c : Char) : Option UInt64 :=
  (timesWord? 10 n).bind (plusWord? · (digitWord c))

/-- The number that digits come to, one by one. -/
def digitsWord? (cs : List Char) : Option UInt64 := cs.foldlM appendDigit? 0

variable {c : Char} {cs : List Char}

theorem toNat_digitWord (h : c.isDigit = true) : (digitWord c).toNat = c.toNat - '0'.toNat := by
  have hle : c.toNat ≤ '9'.toNat := (Char.isDigit_iff_toNat.mp h).2
  have hnine : '9'.toNat < UInt64.size := by decide
  exact UInt64.toNat_ofNat_of_lt' (by omega)

theorem appendDigit?_eq_some_iff (h : c.isDigit = true) :
    appendDigit? n c = some k ↔ k.toNat = 10 * n.toNat + (c.toNat - '0'.toNat) := by
  simp only [appendDigit?, Option.bind_eq_some_iff, timesWord?_eq_some_iff, plusWord?_eq_some_iff,
    toNat_digitWord h]
  constructor
  · rintro ⟨p, hp, hk⟩
    rw [hk, hp]
    rfl
  · intro hk
    obtain ⟨p, hp⟩ : ∃ p : UInt64, p.toNat = 10 * n.toNat := exists_toNat_eq (k := k) (by omega)
    exact ⟨p, hp, by rw [hk, hp]⟩

theorem foldlM_appendDigit?_eq_some_iff (h : ∀ c ∈ cs, c.isDigit = true) (n : UInt64) :
    cs.foldlM appendDigit? n = some k ↔ k.toNat = Nat.ofDigitChars 10 cs n.toNat := by
  induction cs generalizing n with
  | nil =>
    rw [List.foldlM_nil, Nat.ofDigitChars_nil, UInt64.toNat_inj, eq_comm (a := k)]
    exact Option.some_inj
  | cons c cs ih =>
    obtain ⟨hc, hcs⟩ := List.forall_mem_cons.mp h
    simp only [List.foldlM_cons, bind, Option.bind_eq_some_iff, ih hcs,
      appendDigit?_eq_some_iff hc, Nat.ofDigitChars_cons]
    constructor
    · rintro ⟨w, hw, hk⟩
      rw [hk, hw]
    · intro hk
      -- the whole number is a word, and so is what the first digits come to
      obtain ⟨w, hw⟩ := exists_toNat_eq (hk ▸ le_ofDigitChars cs _)
      exact ⟨w, hw, by rw [hk, hw]⟩

theorem digitsWord?_eq_some_iff (h : ∀ c ∈ cs, c.isDigit = true) :
    digitsWord? cs = some k ↔ k.toNat = Nat.ofDigitChars 10 cs 0 :=
  foldlM_appendDigit?_eq_some_iff h 0

/-! ## Milliseconds -/

/-- The milliseconds that a text without surrounding blanks stands for, in words throughout. -/
def wordMillisOf? (cs : List Char) : Option UInt64 :=
  let digits := cs.takeWhile Char.isDigit
  if digits = [] then none else do
    let amount ← digitsWord? digits
    let factor ← unitMillis? (trimmed (cs.dropWhile Char.isDigit))
    timesWord? amount (.ofNat factor)

theorem unitMillis?_lt_size {unit : List Char} {factor : Nat} (h : unitMillis? unit = some factor) :
    factor < UInt64.size := by
  unfold unitMillis? at h
  split at h <;> cases h <;> decide

theorem wordMillisOf?_eq_some_iff : wordMillisOf? cs = some k ↔ millisOf? cs = some k.toNat := by
  have hdigit : ∀ c ∈ cs.takeWhile Char.isDigit, c.isDigit = true :=
    List.all_eq_true.mp List.all_takeWhile
  simp only [wordMillisOf?, Option.ite_none_left_eq_some, bind, Option.bind_eq_some_iff,
    digitsWord?_eq_some_iff hdigit, timesWord?_eq_some_iff, millisOf?_eq_some_iff,
    digits?_eq_some_iff]
  constructor
  · rintro ⟨hne, amount, hamount, factor, hunit, hk⟩
    rw [UInt64.toNat_ofNat_of_lt' (unitMillis?_lt_size hunit)] at hk
    exact ⟨amount.toNat, factor, ⟨hne, hdigit, hamount⟩, hunit, amount.toNat_lt,
      hk ▸ k.toNat_lt, hk⟩
  · rintro ⟨amount, factor, ⟨hne, -, hamount⟩, hunit, hlt, -, hk⟩
    refine ⟨hne, .ofNat amount, ?_, factor, hunit, ?_⟩
    · rw [UInt64.toNat_ofNat_of_lt' hlt, hamount]
    · rw [UInt64.toNat_ofNat_of_lt' hlt, UInt64.toNat_ofNat_of_lt' (unitMillis?_lt_size hunit), hk]

/-- Reading in words gives what reading into unbounded numbers gives, bounds included. -/
theorem map_toNat_wordMillisOf? (cs : List Char) :
    (wordMillisOf? cs).map UInt64.toNat = millisOf? cs := by
  ext m
  rw [Option.map_eq_some_iff]
  constructor
  · rintro ⟨k, hk, rfl⟩
    exact wordMillisOf?_eq_some_iff.mp hk
  · intro hm
    obtain ⟨_, _, _, _, _, hlt, rfl⟩ := millisOf?_eq_some_iff.mp hm
    have hword := UInt64.toNat_ofNat_of_lt' hlt
    exact ⟨_, wordMillisOf?_eq_some_iff.mpr (hword.symm ▸ hm), hword⟩

end PropertyCatalog.Duration
