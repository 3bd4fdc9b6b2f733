import Mathlib.Data.List.Forall2

/-!
# Outcomes

When a computation that may fail succeeds: the step of a map, of a change of errors and of a
sequence, and the walk through a list, which succeeds exactly when it does so at every element. A
walk that fails does so at one element, and never looks at those behind it.

What two computations have in common is said by `Related`: they end in the same way, with related
errors or with related results. Each way to compose computations keeps this, so two runs of one
program are compared step by step.
-/

namespace PropertyCatalog.Outcome

universe u v

variable {ε ε' : Type u} {α β : Type v}

theorem map_eq_ok_iff {f : α → β} {x : Except ε α} {b : β} :
    x.map f = .ok b ↔ ∃ a, x = .ok a ∧ f a = b := by
  cases x <;> simp [Except.map]

theorem map_eq_error_iff {f : α → β} {x : Except ε α} {e : ε} :
    x.map f = .error e ↔ x = .error e := by
  cases x <;> simp [Except.map]

theorem mapError_eq_ok_iff {f : ε → ε'} {x : Except ε α} {a : α} :
    x.mapError f = .ok a ↔ x = .ok a := by
  cases x <;> simp [Except.mapError]

theorem mapError_eq_error_iff {f : ε → ε'} {x : Except ε α} {e' : ε'} :
    x.mapError f = .error e' ↔ ∃ e, x = .error e ∧ f e = e' := by
  cases x <;> simp [Except.mapError]

theorem bind_eq_ok_iff {f : α → Except ε β} {x : Except ε α} {b : β} :
    x >>= f = .ok b ↔ ∃ a, x = .ok a ∧ f a = .ok b := by
  cases x <;> simp [bind, Except.bind]

theorem bind_eq_error_iff {f : α → Except ε β} {x : Except ε α} {e : ε} :
    x >>= f = .error e ↔ x = .error e ∨ ∃ a, x = .ok a ∧ f a = .error e := by
  cases x <;> simp [bind, Except.bind]

theorem exists_eq_error_iff {x : Except ε α} : (∃ e, x = .error e) ↔ ¬∃ a, x = .ok a := by
  cases x <;> simp

/-- A walk through a list succeeds exactly when every step does. -/
theorem mapM_eq_ok_iff {f : α → Except ε β} {xs : List α} {ys : List β} :
    xs.mapM f = .ok ys ↔ List.Forall₂ (fun x y ↦ f x = .ok y) xs ys := by
  induction xs generalizing ys with
  | nil =>
    rw [List.mapM_nil]
    constructor
    · rintro ⟨⟩
      exact .nil
    · rintro ⟨⟩
      rfl
  | cons x xs ih =>
    simp only [List.mapM_cons, bind_eq_ok_iff, ih]
    constructor
    · rintro ⟨y, hy, ys, hys, ⟨⟩⟩
      exact .cons hy hys
    · rintro (_ | ⟨hy, hys⟩)
      exact ⟨_, hy, _, hys, rfl⟩

theorem exists_mapM_ok_iff {f : α → Except ε β} {xs : List α} :
    (∃ ys, xs.mapM f = .ok ys) ↔ ∀ x ∈ xs, ∃ y, f x = .ok y := by
  induction xs with
  | nil => simp [pure, Except.pure]
  | cons x xs ih =>
    simp only [List.mapM_cons, bind_eq_ok_iff, List.forall_mem_cons, ← ih]
    constructor
    · rintro ⟨_, y, hy, ys, hys, -⟩
      exact ⟨⟨y, hy⟩, ys, hys⟩
    · rintro ⟨⟨y, hy⟩, ys, hys⟩
      exact ⟨y :: ys, y, hy, ys, hys, rfl⟩

/-- A walk fails exactly as its first step that does. -/
theorem mapM_eq_error_iff {f : α → Except ε β} {xs : List α} {e : ε} :
    xs.mapM f = .error e ↔
      ∃ before x after, xs = before ++ x :: after ∧ (∀ a ∈ before, ∃ b, f a = .ok b) ∧
        f x = .error e := by
  induction xs with
  | nil =>
    rw [List.mapM_nil]
    constructor
    · rintro ⟨⟩
    · rintro ⟨before, x, after, hxs, -⟩
      exact absurd hxs.symm (List.append_ne_nil_of_right_ne_nil before (List.cons_ne_nil x after))
  | cons x xs ih =>
    have hstep : (x :: xs).mapM f = .error e ↔
        f x = .error e ∨ (∃ b, f x = .ok b) ∧ xs.mapM f = .error e := by
      simp only [List.mapM_cons, bind_eq_error_iff, pure, Except.pure, reduceCtorEq, and_false,
        exists_false, or_false, exists_and_right]
    rw [hstep, ih]
    constructor
    · rintro (hx | ⟨hx, before, y, after, rfl, hbefore, hy⟩)
      · exact ⟨[], x, xs, rfl, nofun, hx⟩
      · exact ⟨x :: before, y, after, rfl, List.forall_mem_cons.mpr ⟨hx, hbefore⟩, hy⟩
    · rintro ⟨before, y, after, hxs, hbefore, hy⟩
      cases before with
      | nil =>
        cases hxs
        exact .inl hy
      | cons a before =>
        cases hxs
        obtain ⟨ha, hbefore⟩ := List.forall_mem_cons.mp hbefore
        exact .inr ⟨ha, before, y, after, rfl, hbefore, hy⟩

theorem exists_of_mem_of_forall₂ {r : α → β → Prop} {xs : List α} {ys : List β}
    (h : List.Forall₂ r xs ys) {y : β} (hy : y ∈ ys) : ∃ x ∈ xs, r x y := by
  induction h with
  | nil => cases hy
  | cons hxy _ ih =>
    rcases List.mem_cons.mp hy with rfl | hy
    · exact ⟨_, List.mem_cons_self, hxy⟩
    · obtain ⟨x, hx, hr⟩ := ih hy
      exact ⟨x, List.mem_cons_of_mem _ hx, hr⟩

/-- What every step keeps, the whole walk keeps in order. -/
theorem map_eq_map_of_forall₂ {γ : Type v} {r : α → β → Prop} {f : α → γ} {g : β → γ}
    {xs : List α} {ys : List β} (h : List.Forall₂ r xs ys) (hstep : ∀ x y, r x y → f x = g y) :
    xs.map f = ys.map g := by
  induction h with
  | nil => rfl
  | cons hxy _ ih => rw [List.map_cons, List.map_cons, hstep _ _ hxy, ih]

/-! ## Two computations -/

/-- Both computations fail, and their errors are related, or both succeed, and so are their
results. -/
inductive Related (s : ε → ε' → Prop) (r : α → β → Prop) : Except ε α → Except ε' β → Prop
  /-- Both fail. -/
  | error {e : ε} {e' : ε'} (related : s e e') : Related s r (.error e) (.error e')
  /-- Both succeed. -/
  | ok {a : α} {b : β} (related : r a b) : Related s r (.ok a) (.ok b)

namespace Related

universe w

variable {γ δ : Type v} {s : ε → ε' → Prop} {r : α → β → Prop} {x : Except ε α} {y : Except ε' β}

theorem imp {q : α → β → Prop} (h : Related s r x y)
    (himp : ∀ a b, x = .ok a → y = .ok b → r a b → q a b) : Related s q x y := by
  cases h with
  | error he => exact .error he
  | ok hab => exact .ok (himp _ _ rfl rfl hab)

theorem imp_error {t : ε → ε' → Prop} (h : Related s r x y) (himp : ∀ e e', s e e' → t e e') :
    Related t r x y := by
  cases h with
  | error he => exact .error (himp _ _ he)
  | ok hab => exact .ok hab

theorem bind {q : γ → δ → Prop} {f : α → Except ε γ} {g : β → Except ε' δ} (h : Related s r x y)
    (hstep : ∀ a b, r a b → Related s q (f a) (g b)) : Related s q (x >>= f) (y >>= g) := by
  cases h with
  | error he => exact .error he
  | ok hab => exact hstep _ _ hab

theorem map {q : γ → δ → Prop} {f : α → γ} {g : β → δ} (h : Related s r x y)
    (hstep : ∀ a b, r a b → q (f a) (g b)) : Related s q (x.map f) (y.map g) := by
  cases h with
  | error he => exact .error he
  | ok hab => exact .ok (hstep _ _ hab)

theorem mapError {η η' : Type u} {q : η → η' → Prop} {f : ε → η} {g : ε' → η'}
    (h : Related s r x y) (hstep : ∀ e e', s e e' → q (f e) (g e')) :
    Related q r (x.mapError f) (y.mapError g) := by
  cases h with
  | error he => exact .error (hstep _ _ he)
  | ok hab => exact .ok hab

/-- Where the second result is a function of the first, the second computation is a map of the
first. -/
theorem eq_map {x y : Except ε α} {f : α → α} (h : Related Eq (fun a b ↦ b = f a) x y) :
    y = x.map f := by
  cases h with
  | error he => exact congrArg Except.error he.symm
  | ok hab => exact congrArg Except.ok hab

theorem mapM {ι κ : Type w} {t : ι → κ → Prop} {f : ι → Except ε α} {g : κ → Except ε' β}
    {xs : List ι} {ys : List κ} (hxs : List.Forall₂ t xs ys)
    (hstep : ∀ i j, t i j → Related s r (f i) (g j)) :
    Related s (List.Forall₂ r) (xs.mapM f) (ys.mapM g) := by
  induction hxs with
  | nil => exact .ok .nil
  | cons hij _ ih =>
    rw [List.mapM_cons, List.mapM_cons]
    refine (hstep _ _ hij).bind fun a b hab ↦ ?_
    exact ih.bind fun as bs habs ↦ .ok (.cons hab habs)

theorem mapM_self {ι : Type w} {f : ι → Except ε α} {g : ι → Except ε' β} (xs : List ι)
    (hstep : ∀ i, Related s r (f i) (g i)) :
    Related s (List.Forall₂ r) (xs.mapM f) (xs.mapM g) := by
  have hself : List.Forall₂ Eq xs xs := List.forall₂_refl xs
  refine mapM hself fun i j hij ↦ ?_
  rw [← hij]
  exact hstep i

end Related

end PropertyCatalog.Outcome
