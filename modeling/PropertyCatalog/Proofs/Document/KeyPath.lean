import PropertyCatalog.Document.Flatten
import PropertyCatalog.PropertyPath

/-!
# Paths of keys

Where a value stands in a document is told by the keys that lead to it. Flattening makes one text of
them, key by key (`foldl_childPath`): empty keys in front add nothing, and the rest stands between
dots. Keys that are neither empty nor dotted can be read off that text again, so no two lists of
such keys have one path (`joinedPath_injective`). With any other key two places may share a path,
and then it matters which of them comes later when the keys of each object are walked through in
their order (`ComesBefore`).
-/

namespace PropertyCatalog.Document

/-! ## One path of many keys -/

/-- The path of keys: the keys from the first that is not empty, with dots between them. -/
def joinedPath (keys : List String) : String := ".".intercalate (keys.dropWhile (· = ""))

theorem childPath_of_ne {path : String} (h : path ≠ "") (key : String) :
    childPath path key = path ++ "." ++ key := if_neg h

theorem foldl_childPath_of_ne {path : String} (h : path ≠ "") (keys : List String) :
    keys.foldl childPath path = ".".intercalate (path :: keys) := by
  induction keys generalizing path with
  | nil => exact String.intercalate_singleton.symm
  | cons key keys ih =>
    have hne : path ++ "." ++ key ≠ "" := by simp
    rw [List.foldl_cons, childPath_of_ne h, ih hne, String.intercalate_cons_cons,
      String.intercalate_cons_append]

theorem foldl_childPath (keys : List String) : keys.foldl childPath "" = joinedPath keys := by
  induction keys with
  | nil => rfl
  | cons key keys ih =>
    rw [List.foldl_cons, childPath, if_pos rfl, joinedPath, List.dropWhile_cons]
    by_cases hkey : key = ""
    · rw [if_pos (decide_eq_true hkey), hkey, ih, joinedPath]
    · have hdecide : ¬decide (key = "") = true := fun h ↦ hkey (of_decide_eq_true h)
      rw [if_neg hdecide, foldl_childPath_of_ne hkey]

/-! ## Keys that can be read off a path -/

/-- A key that is one segment of a path. -/
structure IsSegmentKey (key : String) : Prop where
  /-- It is not empty. -/
  ne_empty : key ≠ ""
  /-- No dot stands in it. -/
  no_dot : '.' ∉ key.toList

/-- Such keys stand in their path one by one, with dots between them. -/
theorem joinedPath_of_isSegmentKey {keys : List String} (h : ∀ key ∈ keys, IsSegmentKey key) :
    joinedPath keys = ".".intercalate keys := by
  cases keys with
  | nil => rfl
  | cons key keys =>
    have hkey : ¬decide (key = "") = true :=
      fun heq ↦ (h key List.mem_cons_self).ne_empty (of_decide_eq_true heq)
    rw [joinedPath, List.dropWhile_cons, if_neg hkey]

theorem segments_joinedPath {keys : List String} (hne : keys ≠ [])
    (h : ∀ key ∈ keys, IsSegmentKey key) :
    PropertyPath.segments (joinedPath keys).toList = keys.map String.toList := by
  rw [joinedPath_of_isSegmentKey h, String.toList_intercalate]
  refine List.splitOn_intercalate '.' ?_ (by simpa using hne)
  exact List.forall_mem_map.mpr fun key hkey ↦ (h key hkey).no_dot

theorem joinedPath_eq_empty_iff {keys : List String} (h : ∀ key ∈ keys, IsSegmentKey key) :
    joinedPath keys = "" ↔ keys = [] := by
  constructor
  · intro hempty
    refine Decidable.byContradiction fun hne ↦ ?_
    -- the empty path has one segment, which is no key
    have hsegments : keys.map String.toList = [[]] := by
      rw [← segments_joinedPath hne h, hempty]
      rfl
    obtain ⟨key, rfl, hkey⟩ := List.map_eq_singleton_iff.mp hsegments
    exact (h key List.mem_cons_self).ne_empty (String.toList_eq_nil_iff.mp hkey)
  · rintro rfl
    rfl

theorem joinedPath_injective {keys keys' : List String} (h : ∀ key ∈ keys, IsSegmentKey key)
    (h' : ∀ key ∈ keys', IsSegmentKey key) (heq : joinedPath keys = joinedPath keys') :
    keys = keys' := by
  by_cases hnil : keys = []
  · have hempty : joinedPath keys' = "" := by rw [← heq, hnil]; rfl
    rw [hnil, (joinedPath_eq_empty_iff h').mp hempty]
  · have hnil' : keys' ≠ [] := by
      rintro rfl
      exact hnil ((joinedPath_eq_empty_iff h).mp heq)
    have hmap : keys.map String.toList = keys'.map String.toList := by
      rw [← segments_joinedPath hnil h, ← segments_joinedPath hnil' h', heq]
    exact (List.map_inj_right fun _ _ ↦ String.toList_inj.mp).mp hmap

/-! ## The order of places -/

/-- Keys lead to an earlier place than others if, where they part, they follow the smaller key. -/
inductive ComesBefore : List String → List String → Prop
  /-- They part here. -/
  | part {key key' : String} (lt : key < key') (keys keys' : List String) :
      ComesBefore (key :: keys) (key' :: keys')
  /-- They part further down. -/
  | agree (key : String) {keys keys' : List String} (rest : ComesBefore keys keys') :
      ComesBefore (key :: keys) (key :: keys')

theorem ComesBefore.asymm {keys keys' : List String} (h : ComesBefore keys keys') :
    ¬ComesBefore keys' keys := by
  induction h with
  | part lt =>
    rintro (⟨gt⟩ | _)
    · exact String.lt_asymm lt gt
    · exact String.lt_irrefl _ lt
  | agree key _ ih =>
    rintro (⟨gt⟩ | ⟨_, rest⟩)
    · exact String.lt_irrefl _ gt
    · exact ih rest

end PropertyCatalog.Document
