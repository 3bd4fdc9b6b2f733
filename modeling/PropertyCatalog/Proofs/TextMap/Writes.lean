import Mathlib.Data.List.Forall2
import PropertyCatalog.TextMap

/-!
# Maps that are written step by step

What a map shows under a key after some steps is what the last of them binds that binds anything to
the key, whatever a step is: an entry that is put in, or a whole map whose values win. One step is
described by what it binds (`hstep` below), and the rest is one induction along the steps.
-/

namespace PropertyCatalog

universe u v w

section LastBinds

variable {α : Type u} {β : Type v} {γ : Type w} {binds : α → γ → Prop}

/-- The value is what the last element binds that binds anything. -/
def LastBinds (binds : α → γ → Prop) (as : List α) (c : γ) : Prop :=
  ∃ before a after, as = before ++ a :: after ∧ binds a c ∧ ∀ a' ∈ after, ∀ c', ¬binds a' c'

theorem not_lastBinds_nil {c : γ} : ¬LastBinds binds [] c := by
  rintro ⟨before, a, after, has, -⟩
  exact absurd has.symm (List.append_ne_nil_of_right_ne_nil before (List.cons_ne_nil a after))

theorem lastBinds_cons_iff {a : α} {as : List α} {c : γ} :
    LastBinds binds (a :: as) c ↔
      LastBinds binds as c ∨ (∀ a' ∈ as, ∀ c', ¬binds a' c') ∧ binds a c := by
  constructor
  · rintro ⟨before, d, after, has, hd, hsilent⟩
    cases before with
    | nil =>
      cases has
      exact .inr ⟨hsilent, hd⟩
    | cons b before =>
      cases has
      exact .inl ⟨before, d, after, rfl, hd, hsilent⟩
  · rintro (⟨before, d, after, rfl, hd, hsilent⟩ | ⟨hsilent, ha⟩)
    · exact ⟨a :: before, d, after, rfl, hd, hsilent⟩
    · exact ⟨[], a, as, rfl, ha, hsilent⟩

/-- Nothing is bound at last exactly where no element binds anything. -/
theorem forall_not_lastBinds_iff {as : List α} :
    (∀ c, ¬LastBinds binds as c) ↔ ∀ a ∈ as, ∀ c, ¬binds a c := by
  induction as with
  | nil => simp [not_lastBinds_nil]
  | cons a as ih =>
    simp only [lastBinds_cons_iff, not_or, forall_and, ih, List.forall_mem_cons]
    constructor
    · rintro ⟨hsilent, hfirst⟩
      exact ⟨fun c hc ↦ hfirst c ⟨hsilent, hc⟩, hsilent⟩
    · rintro ⟨hfirst, hsilent⟩
      exact ⟨hsilent, fun c hc ↦ hfirst c hc.2⟩

theorem forall_not_iff_of_forall₂ {r : α → β → Prop} {binds' : β → γ → Prop} {as : List α}
    {bs : List β} (h : List.Forall₂ r as bs)
    (hbinds : ∀ a b c, r a b → (binds a c ↔ binds' b c)) :
    (∀ a ∈ as, ∀ c, ¬binds a c) ↔ ∀ b ∈ bs, ∀ c, ¬binds' b c := by
  induction h with
  | nil => simp
  | cons hab _ ih => simp only [List.forall_mem_cons, ih, hbinds _ _ _ hab]

theorem lastBinds_iff_of_forall₂ {r : α → β → Prop} {binds' : β → γ → Prop} {as : List α}
    {bs : List β} (h : List.Forall₂ r as bs)
    (hbinds : ∀ a b c, r a b → (binds a c ↔ binds' b c)) {c : γ} :
    LastBinds binds as c ↔ LastBinds binds' bs c := by
  induction h with
  | nil => exact iff_of_false not_lastBinds_nil not_lastBinds_nil
  | cons hab hrest ih =>
    rw [lastBinds_cons_iff, lastBinds_cons_iff, ih, forall_not_iff_of_forall₂ hrest hbinds,
      hbinds _ _ _ hab]

/-- An element that is dropped binds nothing, and one that is replaced binds what its
image binds. -/
theorem lastBinds_filterMap_iff {f : β → Option α} {bs : List β} {c : γ} :
    LastBinds binds (bs.filterMap f) c ↔
      LastBinds (fun b c ↦ ∃ a, f b = some a ∧ binds a c) bs c := by
  induction bs with
  | nil => exact iff_of_false not_lastBinds_nil not_lastBinds_nil
  | cons b bs ih =>
    have hsilent : (∀ a ∈ bs.filterMap f, ∀ c, ¬binds a c) ↔
        ∀ b ∈ bs, ∀ c, ¬∃ a, f b = some a ∧ binds a c := by
      simp only [List.mem_filterMap]
      constructor
      · rintro h b hb c ⟨a, ha, hbinds⟩
        exact h a ⟨b, hb, ha⟩ c hbinds
      · rintro h a ⟨b, hb, ha⟩ c hbinds
        exact h b hb c ⟨a, ha, hbinds⟩
    rw [lastBinds_cons_iff, ← ih, ← hsilent]
    cases hb : f b with
    | none => simp [hb]
    | some a => simp [hb, lastBinds_cons_iff]

/-- In a list that is in order, the last element that binds anything is behind all others that
do. -/
theorem lastBinds_iff_of_pairwise {r : α → α → Prop} (hasymm : ∀ a b, r a b → ¬r b a) {as : List α}
    (h : as.Pairwise r) {c : γ} :
    LastBinds binds as c ↔
      ∃ a ∈ as, binds a c ∧ ∀ a' ∈ as, (∃ c', binds a' c') → a' = a ∨ r a' a := by
  constructor
  · rintro ⟨before, a, after, rfl, ha, hsilent⟩
    refine ⟨a, List.mem_append_right _ List.mem_cons_self, ha, fun a' ha' ⟨c', hc'⟩ ↦ ?_⟩
    rcases List.mem_append.mp ha' with hbefore | hrest
    · exact .inr ((List.pairwise_append.mp h).2.2 a' hbefore a List.mem_cons_self)
    · rcases List.mem_cons.mp hrest with rfl | hafter
      · exact .inl rfl
      · exact absurd hc' (hsilent a' hafter c')
  · rintro ⟨a, ha, hbinds, hlast⟩
    obtain ⟨before, after, rfl⟩ := List.append_of_mem ha
    refine ⟨before, a, after, rfl, hbinds, fun a' hafter c' hc' ↦ ?_⟩
    have hr : r a a' := (List.pairwise_cons.mp (List.pairwise_append.mp h).2.1).1 a' hafter
    have hmem : a' ∈ before ++ a :: after :=
      List.mem_append_right _ (List.mem_cons_of_mem a hafter)
    rcases hlast a' hmem ⟨c', hc'⟩ with rfl | hr'
    · exact hasymm _ _ hr hr
    · exact hasymm _ _ hr hr'

end LastBinds

namespace TextMap

variable {α : Type u} {β : Type v} {key : String}

/-- After some steps a map shows what the last of them binds that binds anything to the key, and
what it showed before where none does. -/
theorem get?_foldl_eq_some_iff {step : TextMap β → α → TextMap β} {binds : α → β → Prop}
    (hstep : ∀ m a b, (step m a).get? key = some b ↔
      binds a b ∨ (∀ b', ¬binds a b') ∧ m.get? key = some b)
    (as : List α) (m : TextMap β) (b : β) :
    (as.foldl step m).get? key = some b ↔
      LastBinds binds as b ∨ (∀ a ∈ as, ∀ b', ¬binds a b') ∧ m.get? key = some b := by
  -- along the steps, from any map: the map after the first step counts where the rest is silent
  induction as generalizing m with
  | nil => simp [not_lastBinds_nil]
  | cons a as ih =>
    rw [List.foldl_cons, ih, hstep, lastBinds_cons_iff, List.forall_mem_cons]
    tauto

/-- A map made of entries shows the last of them with the key. -/
theorem get?_ofList_eq_some_iff_lastBinds {es : List (String × β)} {b : β} :
    (ofList es).get? key = some b ↔ LastBinds (fun e b ↦ e = (key, b)) es b := by
  have hstep : ∀ (m : TextMap β) (e : String × β) (b : β),
      (m.insert e.1 e.2).get? key = some b ↔
        e = (key, b) ∨ (∀ b', ¬e = (key, b')) ∧ m.get? key = some b := by
    intro m e b
    rw [get?_insert]
    by_cases he : key = e.1
    · subst he
      simp [Prod.ext_iff]
    · have hne : ∀ b', e ≠ (key, b') := fun b' heq ↦ he (heq ▸ rfl)
      simp [he, hne]
  rw [ofList, insertAll, get?_foldl_eq_some_iff hstep]
  simp

theorem get?_foldl_extend_eq_some_iff {ms : List (TextMap β)} {b : β} :
    (ms.foldl extend ∅).get? key = some b ↔ LastBinds (fun m b ↦ m.get? key = some b) ms b := by
  have hstep : ∀ (m above : TextMap β) (b : β), (m.extend above).get? key = some b ↔
      above.get? key = some b ∨ (∀ b', ¬above.get? key = some b') ∧ m.get? key = some b := by
    intro m above b
    rw [get?_extend, Option.or_eq_some_iff, Option.eq_none_iff_forall_ne_some]
  rw [get?_foldl_eq_some_iff hstep]
  simp

end TextMap

end PropertyCatalog
