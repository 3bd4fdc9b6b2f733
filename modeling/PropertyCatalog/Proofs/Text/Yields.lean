import PropertyCatalog.Text.Reader

/-!
# What readers yield

A property of whatever a reader yields (`Yields`) is put together as the reader is: from the readers
that it consists of, and for a loop from its turns.
-/

namespace PropertyCatalog.Text.Reader

variable {α β : Type} {P : α → Prop} {Q : β → Prop} {r : Reader α} {f : α → Reader β}

/-- Whatever the reader yields has the property. -/
def Yields (P : α → Prop) (r : Reader α) : Prop := ∀ cs a rest, r cs = some (a, rest) → P a

theorem yields_pure {a : α} (h : P a) : Yields P (pure a : Reader α) := by
  intro cs b rest heq
  cases heq
  exact h

theorem yields_failure : Yields P (failure : Reader α) := by
  intro cs a rest heq
  cases heq

theorem Yields.bind (hr : Yields P r) (hf : ∀ a, P a → Yields Q (f a)) : Yields Q (r >>= f) := by
  intro cs b rest heq
  obtain ⟨⟨a, cs'⟩, ha, hb⟩ := Option.bind_eq_some_iff.mp heq
  exact hf a (hr cs a cs' ha) cs' b rest hb

theorem Yields.map {g : α → β} (hr : Yields (Q <| g ·) r) : Yields Q (g <$> r) := by
  intro cs b rest heq
  obtain ⟨⟨a, cs'⟩, ha, hb⟩ := Option.bind_eq_some_iff.mp heq
  have hq := hr cs a cs' ha
  cases hb
  exact hq

/-- What a reader yields may not matter for what the next one yields. -/
theorem yields_bind (hf : ∀ a, Yields Q (f a)) : Yields Q (r >>= f) := by
  have hr : Yields (fun _ ↦ True) r := fun _ _ _ _ ↦ trivial
  exact hr.bind fun a _ ↦ hf a

theorem yields_collect {turn : Reader (Option α)} (hturn : Yields (∀ a ∈ ·, P a) turn) (n : Nat) :
    Yields (∀ a ∈ ·, P a) (collect turn n) := by
  induction n with
  | zero => exact yields_failure
  | succ n ih =>
    refine hturn.bind fun o ho ↦ ?_
    cases o with
    | none => exact yields_pure nofun
    | some a =>
      refine ih.bind fun as has ↦ yields_pure ?_
      exact List.forall_mem_cons.mpr ⟨ho a rfl, has⟩

theorem yields_many {turn : Reader (Option α)} (hturn : Yields (∀ a ∈ ·, P a) turn) :
    Yields (∀ a ∈ ·, P a) (many turn) := yields_bind fun n ↦ yields_collect hturn n

theorem Yields.of_whole (hr : Yields P r) {text : List Char} {a : α}
    (h : whole r text = some a) : P a := by
  rw [whole] at h
  split at h
  · rename_i heq
    cases h
    exact hr text a [] heq
  · cases h

end PropertyCatalog.Text.Reader
