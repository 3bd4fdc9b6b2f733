/-!
# Finite maps with text keys

A map is the list of its entries, strictly increasing by key. Two maps with the same look-ups are
therefore equal (`TextMap.ext_get?`), and what is printed in key order is the list itself. The order
of keys is the order of texts by code points.

`get?_insert`, `get?_erase` and `get?_insertAll` say what each operation does to a look-up; after
them nobody opens the list.
-/

namespace PropertyCatalog

universe u v

/-- A finite map from texts, kept as its entries in strictly increasing order of keys. -/
structure TextMap (α : Type u) where
  /-- The entries, by increasing key. -/
  entries : List (String × α)
  /-- No key occurs twice, and none stands before a smaller one. -/
  increasing : entries.Pairwise (·.1 < ·.1)
deriving DecidableEq

namespace TextMap

variable {α : Type u} {β : Type v}

/-! ## Order of texts -/

theorem lt_or_eq_or_gt (a b : String) : a < b ∨ a = b ∨ b < a := by
  by_cases hab : a < b
  · exact .inl hab
  by_cases hba : b < a
  · exact .inr (.inr hba)
  · exact .inr (.inl (String.le_antisymm (String.not_lt.1 hba) (String.not_lt.1 hab)))

/-! ## Operations on entries -/

/-- Puts a value under a key, in the place that the order gives it. -/
def insertEntry (key : String) (value : α) : List (String × α) → List (String × α)
  | [] => [(key, value)]
  | e :: es =>
    if key < e.1 then (key, value) :: e :: es
    else if e.1 < key then e :: insertEntry key value es
    else (key, value) :: es

theorem mem_insertEntry {key : String} {value : α} {es : List (String × α)} {e : String × α}
    (h : e ∈ insertEntry key value es) : e = (key, value) ∨ e ∈ es := by
  induction es with
  | nil => simpa [insertEntry] using h
  | cons d ds ih => grind [insertEntry]

theorem increasing_insertEntry (key : String) (value : α) {es : List (String × α)}
    (h : es.Pairwise (·.1 < ·.1)) : (insertEntry key value es).Pairwise (·.1 < ·.1) := by
  induction es with
  | nil => simp [insertEntry]
  | cons d ds ih =>
    obtain ⟨hd, hds⟩ := List.pairwise_cons.1 h
    unfold insertEntry
    split
    · rename_i hlt
      refine List.pairwise_cons.2 ⟨fun e he ↦ ?_, h⟩
      rcases List.mem_cons.1 he with rfl | he
      · exact hlt
      · exact String.lt_trans hlt (hd e he)
    · split
      · rename_i hgt
        refine List.pairwise_cons.2 ⟨fun e he ↦ ?_, ih hds⟩
        rcases mem_insertEntry he with rfl | he
        · exact hgt
        · exact hd e he
      · rename_i hlt hgt
        rcases lt_or_eq_or_gt key d.1 with h' | h' | h'
        · exact absurd h' hlt
        · exact List.pairwise_cons.2 ⟨fun e he ↦ by simpa [h'] using hd e he, hds⟩
        · exact absurd h' hgt

/-! ## Maps -/

def empty : TextMap α := ⟨[], .nil⟩

instance : EmptyCollection (TextMap α) := ⟨empty⟩

instance : Inhabited (TextMap α) := ⟨empty⟩

def get? (m : TextMap α) (key : String) : Option α := m.entries.lookup key

/-- Some value stands under the key. -/
def contains (m : TextMap α) (key : String) : Bool := (m.get? key).isSome

/-- The map with a value put under a key; a value that stood there is replaced. -/
def insert (m : TextMap α) (key : String) (value : α) : TextMap α :=
  ⟨insertEntry key value m.entries, increasing_insertEntry key value m.increasing⟩

def erase (m : TextMap α) (key : String) : TextMap α :=
  ⟨m.entries.filter (·.1 != key), m.increasing.filter _⟩

/-- The entries put into the map one after the other, so that a later one wins. -/
def insertAll (m : TextMap α) (es : List (String × α)) : TextMap α :=
  es.foldl (fun m e ↦ m.insert e.1 e.2) m

/-- The map of the entries, of which a later one wins. -/
def ofList (es : List (String × α)) : TextMap α := insertAll ∅ es

/-- The first map extended by the second, whose values win. -/
def extend (m above : TextMap α) : TextMap α := m.insertAll above.entries

/-- The keys, in increasing order. -/
def keys (m : TextMap α) : List String := m.entries.map (·.1)

def size (m : TextMap α) : Nat := m.entries.length

def isEmpty (m : TextMap α) : Bool := m.entries.isEmpty

/-- The map with every value replaced by its image. -/
def map (f : α → β) (m : TextMap α) : TextMap β :=
  ⟨m.entries.map fun e ↦ (e.1, f e.2), List.pairwise_map.2 m.increasing⟩

/-- The first entry whose key is the given text or a greater one. -/
def firstFrom? (m : TextMap α) (key : String) : Option (String × α) :=
  m.entries.find? (key ≤ ·.1)

/-! ## Look-ups -/

private theorem lookup_cons' (k : String) (d : String × α) (ds : List (String × α)) :
    (d :: ds).lookup k = if k = d.1 then some d.2 else ds.lookup k := by
  obtain ⟨c, a⟩ := d
  by_cases h : k = c
  · simp [h]
  · simp [List.lookup_cons, h, beq_eq_false_iff_ne.2 h]

private theorem lookup_insertEntry (key : String) (value : α) (es : List (String × α))
    (k : String) :
    (insertEntry key value es).lookup k = if k = key then some value else es.lookup k := by
  induction es with
  | nil => simp [insertEntry, lookup_cons']
  | cons d ds ih =>
    rw [insertEntry]
    split
    · rw [lookup_cons']
    · split
      · rename_i hgt
        have hne : d.1 ≠ key := fun h ↦ String.lt_irrefl _ (h ▸ hgt)
        grind [lookup_cons']
      · rename_i hlt hgt
        have hkey : key = d.1 := by
          rcases lt_or_eq_or_gt key d.1 with h | h | h
          · exact absurd h hlt
          · exact h
          · exact absurd h hgt
        grind [lookup_cons']

@[simp] theorem get?_empty (k : String) : (∅ : TextMap α).get? k = none := rfl

theorem get?_insert (m : TextMap α) (key : String) (value : α) (k : String) :
    (m.insert key value).get? k = if k = key then some value else m.get? k :=
  lookup_insertEntry key value m.entries k

theorem contains_iff {m : TextMap α} {k : String} :
    m.contains k = true ↔ ∃ a, m.get? k = some a := Option.isSome_iff_exists

theorem contains_insert (m : TextMap α) (key : String) (value : α) (k : String) :
    (m.insert key value).contains k = (decide (k = key) || m.contains k) := by
  rw [contains, get?_insert, contains]
  by_cases h : k = key <;> simp [h]

/-- Where no key occurs twice, a look-up shows the only entry with its key. -/
theorem lookup_eq_some_iff_mem {es : List (String × α)} (h : (es.map (·.1)).Nodup) {k : String}
    {a : α} : es.lookup k = some a ↔ (k, a) ∈ es := by
  induction es with
  | nil => simp
  | cons d ds ih =>
    rw [List.map_cons, List.nodup_cons] at h
    obtain ⟨hd, hds⟩ := h
    rw [lookup_cons', List.mem_cons]
    by_cases hk : k = d.1
    · have hnot : (k, a) ∉ ds := fun hmem ↦ hd (List.mem_map.mpr ⟨(k, a), hmem, hk⟩)
      rw [if_pos hk, Option.some_inj]
      constructor
      · intro ha
        exact .inl (Prod.ext hk ha.symm)
      · rintro (he | he)
        · rw [← he]
        · exact absurd he hnot
    · have hne : (k, a) ≠ d := fun he ↦ hk (congrArg Prod.fst he)
      rw [if_neg hk, ih hds, or_iff_right hne]

private theorem nodup_of_increasing {es : List (String × α)} (h : es.Pairwise (·.1 < ·.1)) :
    (es.map (·.1)).Nodup := by
  refine List.pairwise_map.mpr (h.imp fun {d e} hlt heq ↦ ?_)
  rw [heq] at hlt
  exact String.lt_irrefl _ hlt

theorem nodup_keys (m : TextMap α) : (m.entries.map (·.1)).Nodup := nodup_of_increasing m.increasing

private theorem filter_key_eq {es : List (String × α)} (h : (es.map (·.1)).Nodup) (k : String) :
    es.filter (·.1 = k) = ((es.lookup k).map (k, ·)).toList := by
  induction es with
  | nil => rfl
  | cons d ds ih =>
    rw [List.map_cons, List.nodup_cons] at h
    obtain ⟨hd, hds⟩ := h
    rw [lookup_cons']
    by_cases hk : k = d.1
    · -- no other entry has the key of this one
      have hrest : ds.filter (·.1 = k) = [] := by
        refine List.filter_eq_nil_iff.mpr fun e he hkey ↦ hd ?_
        rw [← hk, ← of_decide_eq_true hkey]
        exact List.mem_map_of_mem he
      rw [List.filter_cons, if_pos (decide_eq_true hk.symm), hrest, if_pos hk, hk]
      rfl
    · have hne : ¬decide (d.1 = k) = true := fun h ↦ hk (of_decide_eq_true h).symm
      rw [List.filter_cons, if_neg hne, if_neg hk, ih hds]

/-- The entries with a key are the one that a look-up shows. -/
theorem filter_entries (m : TextMap α) (k : String) :
    m.entries.filter (·.1 = k) = ((m.get? k).map (k, ·)).toList := filter_key_eq m.nodup_keys k

theorem mem_entries_iff {m : TextMap α} {k : String} {a : α} :
    (k, a) ∈ m.entries ↔ m.get? k = some a := (lookup_eq_some_iff_mem m.nodup_keys).symm

theorem mem_keys_iff {m : TextMap α} {k : String} : k ∈ m.keys ↔ ∃ a, m.get? k = some a := by
  rw [keys, List.mem_map]
  constructor
  · rintro ⟨⟨key, a⟩, hmem, rfl⟩
    exact ⟨a, mem_entries_iff.mp hmem⟩
  · rintro ⟨a, hget⟩
    exact ⟨(k, a), mem_entries_iff.mpr hget, rfl⟩

private theorem eq_of_mem_iff {es fs : List (String × α)} (hes : es.Pairwise (·.1 < ·.1))
    (hfs : fs.Pairwise (·.1 < ·.1)) (h : ∀ e, e ∈ es ↔ e ∈ fs) : es = fs := by
  induction es generalizing fs with
  | nil => cases fs with
    | nil => rfl
    | cons f fs => exact absurd ((h f).2 List.mem_cons_self) List.not_mem_nil
  | cons e es ih => cases fs with
    | nil => exact absurd ((h e).1 List.mem_cons_self) List.not_mem_nil
    | cons f fs =>
      obtain ⟨he, hes⟩ := List.pairwise_cons.1 hes
      obtain ⟨hf, hfs'⟩ := List.pairwise_cons.1 hfs
      have hef : e = f := by
        rcases List.mem_cons.1 ((h e).1 List.mem_cons_self) with h' | h'
        · exact h'
        · rcases List.mem_cons.1 ((h f).2 List.mem_cons_self) with h'' | h''
          · exact h''.symm
          · exact absurd (he f h'') (String.lt_asymm (hf e h'))
      subst hef
      refine congrArg _ (ih hes hfs' fun x ↦ ⟨fun hx ↦ ?_, fun hx ↦ ?_⟩)
      · rcases List.mem_cons.1 ((h x).1 (List.mem_cons_of_mem _ hx)) with rfl | h'
        · exact absurd (he _ hx) (String.lt_irrefl _)
        · exact h'
      · rcases List.mem_cons.1 ((h x).2 (List.mem_cons_of_mem _ hx)) with rfl | h'
        · exact absurd (hf _ hx) (String.lt_irrefl _)
        · exact h'

theorem ext_get? {m n : TextMap α} (h : ∀ k, m.get? k = n.get? k) : m = n := by
  have hentries : m.entries = n.entries := by
    refine eq_of_mem_iff m.increasing n.increasing fun (k, a) ↦ ?_
    rw [mem_entries_iff, mem_entries_iff, h]
  cases m
  cases n
  congr

theorem get?_erase (m : TextMap α) (key k : String) :
    (m.erase key).get? k = if k = key then none else m.get? k := by
  apply Option.ext
  intro a
  rw [← mem_entries_iff]
  by_cases hk : k = key
  · simp [erase, hk]
  · simp [erase, hk, mem_entries_iff]

/-- After entries were put in, the last of them with the key decides, and the old map where there
is none. -/
theorem get?_insertAll (m : TextMap α) (es : List (String × α)) (k : String) :
    (m.insertAll es).get? k = (es.reverse.lookup k).or (m.get? k) := by
  induction es generalizing m with
  | nil => simp [insertAll]
  | cons e es ih =>
    have hstep : m.insertAll (e :: es) = (m.insert e.1 e.2).insertAll es := rfl
    rw [hstep, ih, get?_insert, List.reverse_cons, List.lookup_append, lookup_cons']
    cases es.reverse.lookup k <;> by_cases h : k = e.1 <;> simp [h]

theorem mem_of_get?_ofList {es : List (String × α)} {k : String} {a : α}
    (h : (ofList es).get? k = some a) : (k, a) ∈ es := by
  rw [ofList, get?_insertAll, get?_empty, Option.or_none] at h
  obtain ⟨before, after, hes, -⟩ := List.lookup_eq_some_iff.mp h
  rw [← List.mem_reverse, hes]
  exact List.mem_append_right before List.mem_cons_self

theorem exists_get?_ofList_of_mem {es : List (String × α)} {k : String} {a : α}
    (h : (k, a) ∈ es) : ∃ b, (ofList es).get? k = some b := by
  rw [ofList, get?_insertAll, get?_empty, Option.or_none, ← Option.ne_none_iff_exists']
  intro hnone
  have hkey := List.lookup_eq_none_iff.mp hnone (k, a) (List.mem_reverse.mpr h)
  simp at hkey

theorem get?_ofList_eq_some_iff {es : List (String × α)} (h : (es.map (·.1)).Nodup) {k : String}
    {a : α} : (ofList es).get? k = some a ↔ (k, a) ∈ es := by
  have hreverse : (es.reverse.map (·.1)).Nodup := by
    rw [List.map_reverse]
    exact List.pairwise_reverse.mpr (h.imp Ne.symm)
  rw [ofList, get?_insertAll, get?_empty, Option.or_none, lookup_eq_some_iff_mem hreverse,
    List.mem_reverse]

theorem get?_ofList_append (es fs : List (String × α)) (k : String) :
    (ofList (es ++ fs)).get? k = ((ofList fs).get? k).or ((ofList es).get? k) := by
  simp only [ofList, get?_insertAll, List.reverse_append, List.lookup_append, get?_empty,
    Option.or_none]

@[simp] theorem get?_ofList_nil (k : String) : (ofList ([] : List (String × α))).get? k = none :=
  rfl

theorem get?_ofList_cons (e : String × α) (es : List (String × α)) (k : String) :
    (ofList (e :: es)).get? k = ((ofList es).get? k).or (if k = e.1 then some e.2 else none) := by
  have hfirst : (ofList [e]).get? k = if k = e.1 then some e.2 else none :=
    get?_insert ∅ e.1 e.2 k
  rw [← hfirst, ← get?_ofList_append, List.singleton_append]

theorem ofList_entries (m : TextMap α) : ofList m.entries = m := by
  refine ext_get? fun k ↦ Option.ext fun a ↦ ?_
  rw [get?_ofList_eq_some_iff m.nodup_keys, mem_entries_iff]

theorem get?_extend (m above : TextMap α) (k : String) :
    (m.extend above).get? k = (above.get? k).or (m.get? k) := by
  have hmap : insertAll ∅ above.entries = above := ofList_entries above
  have hlookup := get?_insertAll ∅ above.entries k
  rw [hmap, get?_empty, Option.or_none] at hlookup
  rw [extend, get?_insertAll, ← hlookup]

theorem get?_map (f : α → β) (m : TextMap α) (k : String) :
    (m.map f).get? k = (m.get? k).map f := by
  refine Option.ext fun b ↦ ?_
  rw [← mem_entries_iff, map, List.mem_map, Option.map_eq_some_iff]
  constructor
  · rintro ⟨⟨key, a⟩, hmem, heq⟩
    cases heq
    exact ⟨a, mem_entries_iff.mp hmem, rfl⟩
  · rintro ⟨a, hget, rfl⟩
    exact ⟨(k, a), mem_entries_iff.mpr hget, rfl⟩

end TextMap

end PropertyCatalog
