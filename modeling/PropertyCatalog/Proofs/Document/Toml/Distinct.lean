import PropertyCatalog.Document.Toml.Statement
import PropertyCatalog.Proofs.Document.Toml.Flatten
import PropertyCatalog.Proofs.Text.Yields

/-!
# What a TOML text binds

Nothing that is put into a growing table makes a key stand in it twice: a key that is there is
replaced, or refused, and a new one goes to the end (`IsDistinct.set`). Each statement keeps that,
and so do the pairs of an inline table, at any depth; so no table that is read has a key twice
(`exists_table_of_readTable?`). What a text binds is then said by the leaves of the table that it
says (`get?_flatten_of_readTree?`).
-/

namespace PropertyCatalog.Document.Toml

open Value (HasDistinctKeys)

theorem grownEntries_eq (t : Growing) : grownEntries t = t.map fun e ↦ (e.1, e.2.value) := by
  induction t with
  | nil => rfl
  | cons e t ih => rw [grownEntries, ih, List.map_cons]

theorem hasDistinctKeys_of_isTable_eq_false {v : Value} (h : v.isTable = false) :
    v.HasDistinctKeys := Value.everyTable_of_isTable_eq_false h

namespace Growing

variable {t t' : Growing} {key : String} {g : Growth} {v : Value}

/-- What has grown has no key twice, nor has a table in it. -/
def IsDistinct (t : Growing) : Prop := (Value.table (grownEntries t)).HasDistinctKeys

theorem isDistinct_iff :
    t.IsDistinct ↔ (t.map (·.1)).Nodup ∧ ∀ e ∈ t, e.2.value.HasDistinctKeys := by
  rw [IsDistinct, HasDistinctKeys, Value.everyTable_table_iff, grownEntries_eq, List.map_map,
    List.forall_mem_map]
  rfl

theorem isDistinct_nil : IsDistinct [] := isDistinct_iff.mpr ⟨.nil, nofun⟩

theorem IsDistinct.of_lookup (ht : t.IsDistinct) (h : t.lookup key = some g) :
    g.value.HasDistinctKeys := by
  obtain ⟨before, after, rfl, -⟩ := List.lookup_eq_some_iff.mp h
  exact (isDistinct_iff.mp ht).2 (key, g) List.mem_append_cons_self

/-- A key that is there stays where it is, and a new one goes to the end. -/
theorem IsDistinct.set (ht : t.IsDistinct) (hg : g.value.HasDistinctKeys) :
    (t.set key g).IsDistinct := by
  obtain ⟨hkeys, hvalues⟩ := isDistinct_iff.mp ht
  rw [isDistinct_iff, Growing.set]
  split
  · constructor
    · have hsame : (t.map fun e ↦ if e.1 = key then (key, g) else e).map (·.1) = t.map (·.1) := by
        rw [List.map_map]
        refine List.map_congr_left fun e _ ↦ ?_
        by_cases he : e.1 = key
        · rw [Function.comp_apply, if_pos he, he]
        · rw [Function.comp_apply, if_neg he]
      rw [hsame]
      exact hkeys
    · refine List.forall_mem_map.mpr fun e he ↦ ?_
      split
      · exact hg
      · exact hvalues e he
  · rename_i hnew
    have hnot : key ∉ t.map (·.1) := by
      intro hmem
      obtain ⟨e, he, rfl⟩ := List.mem_map.mp hmem
      exact hnew (List.lookup_isSome_iff.mpr ⟨e, he, beq_self_eq_true e.1⟩)
    constructor
    · rw [List.map_append, List.map_singleton, ← List.concat_eq_append]
      exact hkeys.concat hnot
    · refine List.forall_mem_append.mpr ⟨hvalues, ?_⟩
      exact List.forall_mem_singleton.mpr hg

theorem IsDistinct.set_table {origin : Origin} {inner? : Option Growing} (ht : t.IsDistinct)
    (hinner : ∀ inner, inner? = some inner → inner.IsDistinct)
    (h : (inner?.map fun inner ↦ t.set key (.table origin inner)) = some t') : t'.IsDistinct := by
  obtain ⟨inner, heq, rfl⟩ := Option.map_eq_some_iff.mp h
  exact ht.set (hinner inner heq)

/-- No key leads into the tables of an array, so they do not matter. -/
theorem IsDistinct.set_tables {items? : Option (List Growing)} (ht : t.IsDistinct)
    (h : (items?.map fun items ↦ t.set key (.tables items)) = some t') : t'.IsDistinct := by
  obtain ⟨items, -, rfl⟩ := Option.map_eq_some_iff.mp h
  exact ht.set (hasDistinctKeys_of_isTable_eq_false rfl)

theorem IsDistinct.bind? (ht : t.IsDistinct) (hv : v.HasDistinctKeys)
    (h : t.bind? key v = some t') : t'.IsDistinct := by
  rw [Growing.bind?] at h
  split at h
  · cases h
  · cases h
    exact ht.set hv

theorem IsDistinct.bindWithin? {origin : Origin} {keys : List String} (ht : t.IsDistinct)
    (hv : v.HasDistinctKeys) (h : bindWithin? origin keys key v t = some t') : t'.IsDistinct := by
  induction keys generalizing origin t t' with
  | nil =>
    rw [Growing.bindWithin?] at h
    split at h
    · exact ht.bind? hv h
    · cases h
  | cons k keys ih =>
    rw [Growing.bindWithin?] at h
    split at h
    · exact ht.set_table (fun _ ↦ ih isDistinct_nil) h
    · -- a table that a header has opened is left alone
      cases h
    · rename_i hlookup
      exact ht.set_table (fun _ ↦ ih (ht.of_lookup hlookup)) h
    · exact ht.set_tables h
    · cases h

theorem IsDistinct.bindPath? {path : List String} (ht : t.IsDistinct) (hv : v.HasDistinctKeys)
    (h : t.bindPath? path v = some t') : t'.IsDistinct := by
  rw [Growing.bindPath?] at h
  split at h
  · cases h
  · exact ht.bind? hv h
  · exact ht.bindWithin? hv h

/-- What is done to the table at the end of a path leaves the tables on the way as distinct. -/
theorem IsDistinct.within? {f : Growing → Option Growing} {path : List String}
    (hf : ∀ t t' : Growing, t.IsDistinct → f t = some t' → t'.IsDistinct) (ht : t.IsDistinct)
    (h : within? f path t = some t') : t'.IsDistinct := by
  induction path generalizing t t' with
  | nil => exact hf t t' ht h
  | cons k path ih =>
    rw [Growing.within?] at h
    split at h
    · exact ht.set_table (fun _ ↦ ih isDistinct_nil) h
    · rename_i hlookup
      exact ht.set_table (fun _ ↦ ih (ht.of_lookup hlookup)) h
    · exact ht.set_tables h
    · cases h

theorem IsDistinct.open? (ht : t.IsDistinct) (h : open? key t = some t') : t'.IsDistinct := by
  rw [Growing.open?] at h
  split at h
  · cases h
    exact ht.set isDistinct_nil
  · rename_i inner hlookup
    have hinner : IsDistinct inner := ht.of_lookup hlookup
    cases h
    exact ht.set hinner
  · cases h

theorem IsDistinct.append? (ht : t.IsDistinct) (h : append? key t = some t') : t'.IsDistinct := by
  rw [Growing.append?] at h
  split at h
  · cases h
    exact ht.set (hasDistinctKeys_of_isTable_eq_false rfl)
  · cases h
    exact ht.set (hasDistinctKeys_of_isTable_eq_false rfl)
  · cases h

theorem IsDistinct.atParent? {f : String → Growing → Option Growing} {path : List String}
    (hf : ∀ key, ∀ t t' : Growing, t.IsDistinct → f key t = some t' → t'.IsDistinct)
    (ht : t.IsDistinct) (h : atParent? f path t = some t') : t'.IsDistinct := by
  obtain ⟨key, -, hwithin⟩ := Option.bind_eq_some_iff.mp h
  exact ht.within? (hf key) hwithin

end Growing

/-! ## Statements -/

theorem of_foldlM_eq_some {α β : Type} (Inv : β → Prop) {f : β → α → Option β} {as : List α}
    (hf : ∀ b a b', a ∈ as → Inv b → f b a = some b' → Inv b') {b b' : β} (hb : Inv b)
    (h : as.foldlM f b = some b') : Inv b' := by
  induction as generalizing b with
  | nil =>
    cases h
    exact hb
  | cons a as ih =>
    rw [List.foldlM_cons] at h
    obtain ⟨c, hc, hrest⟩ := Option.bind_eq_some_iff.mp h
    refine ih (fun b a b' ha ↦ hf b a b' (List.mem_cons_of_mem _ ha)) ?_ hrest
    exact hf b a c List.mem_cons_self hb hc

namespace Statement

open PropertyCatalog.Text PropertyCatalog.Text.Reader

/-- The value of a pair has no key twice, nor has a table in it. -/
def IsDistinct : Statement → Prop
  | pair _ v => v.HasDistinctKeys
  | _ => True

theorem hasDistinctKeys_of_inlineTable? {pairs : List (List String × Value)} {v : Value}
    (hpairs : ∀ p ∈ pairs, p.2.HasDistinctKeys) (h : inlineTable? pairs = some v) :
    v.HasDistinctKeys := by
  obtain ⟨t, ht, rfl⟩ := Option.map_eq_some_iff.mp h
  refine of_foldlM_eq_some Growing.IsDistinct ?_ Growing.isDistinct_nil ht
  intro t p t' hp hdistinct hbind
  exact hdistinct.bindPath? (hpairs p hp) hbind

theorem yields_items {α : Type} {P : α → Prop} {item : Reader α} (hitem : Yields P item)
    (closing : Char) : Yields (∀ a ∈ ·, P a) (items item closing) := by
  refine yields_bind fun _ ↦ yields_bind fun closed ↦ ?_
  split
  · exact yields_pure nofun
  · refine hitem.bind fun first hfirst ↦ yields_bind fun _ ↦ ?_
    refine Yields.bind (yields_many ?_) fun rest hrest ↦
      yields_pure (List.forall_mem_cons.mpr ⟨hfirst, hrest⟩)
    -- behind a comma the list may end
    refine yields_bind fun closed ↦ ?_
    split
    · exact yields_pure nofun
    · refine yields_bind fun _ ↦ yields_bind fun _ ↦ yields_bind fun closed ↦ ?_
      split
      · exact yields_pure nofun
      · refine hitem.bind fun next hnext ↦ yields_bind fun _ ↦ yields_pure ?_
        rintro _ ⟨⟩
        exact hnext

theorem yields_keyed {P : Value → Prop} {value : Reader Value} (hvalue : Yields P value) :
    Yields (fun p ↦ P p.2) (keyed value) :=
  yields_bind fun _ ↦ yields_bind fun _ ↦ yields_bind fun _ ↦ hvalue.bind fun _ hv ↦ yields_pure hv

theorem isTable_of_ofWord? {word : List Char} {v : Value} (h : Scalar.ofWord? word = some v) :
    v.isTable = false := by
  rw [Scalar.ofWord?] at h
  split at h
  · cases h
    rfl
  · split at h
    · cases h
      rfl
    · rcases Option.or_eq_some_iff.mp h with hinteger | ⟨-, h⟩
      · obtain ⟨n, -, rfl⟩ := Option.map_eq_some_iff.mp hinteger
        rfl
      · rcases Option.or_eq_some_iff.mp h with hreal | ⟨-, hmoment⟩
        · obtain ⟨x, -, rfl⟩ := Option.map_eq_some_iff.mp hreal
          rfl
        · obtain ⟨m, -, rfl⟩ := Option.map_eq_some_iff.mp hmoment
          rfl

theorem yields_scalar : Yields HasDistinctKeys value.scalar := by
  refine yields_bind fun c ↦ ?_
  split
  · exact yields_bind fun s ↦ yields_pure (hasDistinctKeys_of_isTable_eq_false rfl)
  · exact yields_bind fun s ↦ yields_pure (hasDistinctKeys_of_isTable_eq_false rfl)
  · refine yields_bind fun word ↦ ?_
    split
    · rename_i hword
      exact yields_pure (hasDistinctKeys_of_isTable_eq_false (isTable_of_ofWord? hword))
    · exact yields_failure

theorem yields_value (room : Nat) : Yields HasDistinctKeys (value room) := by
  induction room with
  | zero => exact yields_scalar
  | succ room ih =>
    refine yields_bind fun c ↦ ?_
    split
    · refine yields_bind fun _ ↦ yields_bind fun vs ↦ yields_pure ?_
      exact hasDistinctKeys_of_isTable_eq_false rfl
    · refine yields_bind fun _ ↦ (yields_items (yields_keyed ih) _).bind fun pairs hpairs ↦ ?_
      split
      · rename_i hinline
        exact yields_pure (hasDistinctKeys_of_inlineTable? hpairs hinline)
      · exact yields_failure
    · exact yields_scalar

theorem yields_read : Yields IsDistinct read := by
  refine yields_bind fun _ ↦ ?_
  split
  · exact yields_bind fun _ ↦ yields_bind fun _ ↦ yields_pure trivial
  · refine yields_bind fun _ ↦ ?_
    split
    · exact yields_bind fun _ ↦ yields_bind fun _ ↦ yields_pure trivial
    · exact (yields_keyed (yields_value nestingLimit)).bind fun _ hp ↦ yields_pure hp

theorem yields_line : Yields (∀ o ∈ ·, ∀ s ∈ o, IsDistinct s) line := by
  have hend (o : Option Statement) (ho : ∀ s ∈ o, s.IsDistinct) :
      Yields (∀ o ∈ ·, ∀ s ∈ o, IsDistinct s) (do
        spaces
        comment
        if (← peek).isSome then ensure (← QuotedText.lineBreak)
        return some o) := by
    have hyields : Yields (∀ o ∈ ·, ∀ s ∈ o, IsDistinct s) (pure (some o)) := by
      refine yields_pure ?_
      rintro _ ⟨⟩
      exact ho
    refine yields_bind fun _ ↦ yields_bind fun _ ↦ yields_bind fun c ↦ ?_
    split
    · exact yields_bind fun _ ↦ yields_bind fun _ ↦ hyields
    · exact hyields
  -- a line may be empty but for a comment; what ends it is read in either case
  refine yields_bind fun _ ↦ yields_bind fun c ↦ ?_
  split
  · exact yields_pure nofun
  · split
    · exact (yields_pure nofun).bind hend
    · refine Yields.bind (Yields.map fun cs s rest hs ↦ ?_) hend
      rintro _ ⟨⟩
      exact yields_read cs s rest hs

theorem isDistinct_of_readAll? {text : String} {ss : List Statement} (h : readAll? text = some ss) :
    ∀ s ∈ ss, s.IsDistinct := by
  obtain ⟨os, hos, rfl⟩ := Option.map_eq_some_iff.mp h
  have hlines := (yields_many yields_line).of_whole hos
  intro s hs
  obtain ⟨o, ho, rfl⟩ := List.mem_filterMap.mp hs
  exact hlines _ ho s rfl

end Statement

/-! ## Texts -/

/-- The table at the root has no key twice, nor has a table in it. -/
def Draft.IsDistinct (d : Draft) : Prop := d.root.IsDistinct

theorem Draft.IsDistinct.apply? {d d' : Draft} {s : Statement} (hd : d.IsDistinct)
    (hs : s.IsDistinct) (h : d.apply? s = some d') : d'.IsDistinct := by
  cases s with
  | pair path v =>
    obtain ⟨root, hroot, rfl⟩ := Option.map_eq_some_iff.mp h
    exact hd.within? (fun t t' ht hbind ↦ ht.bindPath? hs hbind) hroot
  | header path =>
    obtain ⟨root, hroot, rfl⟩ := Option.map_eq_some_iff.mp h
    exact hd.atParent? (fun key t t' ht hopen ↦ ht.open? hopen) hroot
  | arrayHeader path =>
    obtain ⟨root, hroot, rfl⟩ := Option.map_eq_some_iff.mp h
    exact hd.atParent? (fun key t t' ht happend ↦ ht.append? happend) hroot

theorem exists_table_of_readTable? {text : String} {v : Value} (h : readTable? text = some v) :
    ∃ entries, v = .table entries ∧ v.HasDistinctKeys := by
  obtain ⟨ss, hss, hdraft⟩ := Option.bind_eq_some_iff.mp h
  obtain ⟨d, hd, heq⟩ := Option.bind_eq_some_iff.mp hdraft
  cases heq
  refine ⟨grownEntries d.root, rfl, ?_⟩
  have hinitial : Draft.IsDistinct {} := Growing.isDistinct_nil
  refine of_foldlM_eq_some Draft.IsDistinct ?_ hinitial hd
  intro d s d' hs hdistinct happly
  exact hdistinct.apply? (Statement.isDistinct_of_readAll? hss s hs) happly

/-- A text binds the leaves of the table that it says, and nothing else, each at the keys that lead
to it, if every key is one segment of a path. -/
theorem get?_flatten_of_readTree? {text : String} {t : Tree} (h : readTree? text = some t) :
    ∃ v, readTable? text = some v ∧ (v.EveryTable (∀ e ∈ ·, IsSegmentKey e.1) →
      ∀ path value, t.flatten.get? path = some value ↔
        ∃ keys leaf, v.Reaches keys leaf ∧ leaf.BoundAs value ∧ ".".intercalate keys = path) := by
  obtain ⟨v, hv, htree⟩ := Option.bind_eq_some_iff.mp h
  obtain ⟨entries, rfl, hdistinct⟩ := exists_table_of_readTable? hv
  split at htree
  · rename_i hbounded
    cases htree
    exact ⟨_, hv, fun hkeys path value ↦
      Value.get?_flatten_tree_eq_some_iff hbounded hdistinct hkeys⟩
  · cases htree

example : ((readTree? "a.b = 1\n[c]\nd = inf\n").map (·.flatten.entries)) =
    some [("a.b", .integer 1), ("c.d", .text "inf")] := by decide +kernel

end PropertyCatalog.Document.Toml
