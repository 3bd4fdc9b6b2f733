import PropertyCatalog.Journal

/-!
# What a source changes

A source is laid over values one value at a time, and each step looks only at the path that it
writes. So what a path shows after some steps, and whether it was noted, hangs on the values before
the first step alone (`foldl_put`): the keys of a source differ from each other, and no step touches
the path of another one. That turns the loop into a fact about whole maps: the noted paths are the
ones at which both bind values and the values differ (`mem_changedPaths_iff`), in increasing order
(`pairwise_changedPaths`).

The journal of a merge says this of the environment and of the overrides, each laid over what lies
beneath it (`notes_ofLayer`). The file is laid over nothing, so it changes nothing.
-/

namespace PropertyCatalog

/-! ## One value -/

namespace Layering

variable (l : Layering) (path : String) (value : BoundValue)

@[simp] theorem values_put : (l.put path value).values = l.values.insert path value := rfl

/-- A path is noted when another value stood there. -/
theorem changed_put :
    (l.put path value).changed
      = l.changed ++ if (l.values.get? path).any (· ≠ value) then [path] else [] := by
  rw [put, TextMap.get?_insert, if_pos rfl]
  cases l.values.get? path with
  | none => exact (List.append_nil _).symm
  | some previous =>
    by_cases h : previous = value
    · simp [h]
    · simp [h, Ne.symm h]

/-! ## All values of a source -/

/-- Steps at distinct paths do not see each other. -/
theorem foldl_put {es : List (String × BoundValue)} (h : es.Pairwise (·.1 < ·.1)) (l : Layering) :
    es.foldl (fun l e ↦ l.put e.1 e.2) l
      = ⟨l.values.insertAll es,
          l.changed ++ (es.filter fun e ↦ (l.values.get? e.1).any (· ≠ e.2)).map (·.1)⟩ := by
  induction es generalizing l with
  | nil => simp [TextMap.insertAll]
  | cons e es ih =>
    obtain ⟨he, hes⟩ := List.pairwise_cons.mp h
    -- the first step writes no path of a later one
    have hlater : ∀ d ∈ es, (l.put e.1 e.2).values.get? d.1 = l.values.get? d.1 := by
      intro d hd
      have hne : d.1 ≠ e.1 := fun heq ↦ String.lt_irrefl _ (heq ▸ he d hd)
      rw [values_put, TextMap.get?_insert, if_neg hne]
    have hfilter : (es.filter fun d ↦ ((l.put e.1 e.2).values.get? d.1).any (· ≠ d.2))
        = es.filter fun d ↦ (l.values.get? d.1).any (· ≠ d.2) :=
      List.filter_congr fun d hd ↦ by rw [hlater d hd]
    rw [List.foldl_cons, ih hes, hfilter, changed_put, List.filter_cons, List.append_assoc]
    by_cases hchange : (l.values.get? e.1).any (· ≠ e.2) = true
    · rw [if_pos hchange, if_pos hchange]
      rfl
    · rw [if_neg hchange, if_neg hchange]
      rfl

end Layering

/-! ## Changed paths -/

section ChangedPaths

variable {below above : BoundValues}

theorem changedPaths_eq :
    changedPaths below above
      = (above.entries.filter fun e ↦ (below.get? e.1).any (· ≠ e.2)).map (·.1) := by
  rw [changedPaths, Layering.ofSource, Layering.foldl_put above.increasing]
  rfl

/-- A source gives a path another value than it had. -/
def Changes (below above : String → Option BoundValue) (path : String) : Prop :=
  ∃ old new, below path = some old ∧ above path = some new ∧ old ≠ new

theorem mem_changedPaths_iff {path : String} :
    path ∈ changedPaths below above ↔ Changes below.get? above.get? path := by
  rw [changedPaths_eq, List.mem_map]
  constructor
  · rintro ⟨⟨path, new⟩, hmem, rfl⟩
    obtain ⟨hnew, hold⟩ := List.mem_filter.mp hmem
    obtain ⟨old, hget, hne⟩ := (Option.any_eq_true _ _).mp hold
    exact ⟨old, new, hget, TextMap.mem_entries_iff.mp hnew, of_decide_eq_true hne⟩
  · rintro ⟨old, new, hold, hnew, hne⟩
    refine ⟨(path, new), List.mem_filter.mpr ⟨TextMap.mem_entries_iff.mpr hnew, ?_⟩, rfl⟩
    exact (Option.any_eq_true _ _).mpr ⟨old, hold, decide_eq_true hne⟩

theorem pairwise_changedPaths : (changedPaths below above).Pairwise (· < ·) := by
  rw [changedPaths_eq]
  exact List.pairwise_map.mpr (above.increasing.filter _)

end ChangedPaths

/-! ## The journal -/

/-- What a source leaves in the journal: nothing if it changes no path, and else one entry with its
name and the paths that it changes, in increasing order. -/
inductive Notes (source : String) (changes : String → Prop) : List Entry → Prop
  /-- Nothing is changed. -/
  | nothing (unchanged : ∀ path, ¬changes path) : Notes source changes []
  /-- Something is changed. -/
  | changed {paths : List String} (ne_nil : paths ≠ []) (increasing : paths.Pairwise (· < ·))
      (mem_iff : ∀ path, path ∈ paths ↔ changes path) :
      Notes source changes [.changedBy source paths]

theorem Journal.notes_ofLayer (source : String) (below above : BoundValues) :
    Notes source (Changes below.get? above.get?) (ofLayer source below above) := by
  have hmem : ∀ path, path ∈ changedPaths below above ↔ Changes below.get? above.get? path :=
    fun _ ↦ mem_changedPaths_iff
  have hincreasing : (changedPaths below above).Pairwise (· < ·) := pairwise_changedPaths
  rw [ofLayer]
  cases hpaths : changedPaths below above with
  | nil => exact .nothing fun path h ↦ List.not_mem_nil (hpaths ▸ (hmem path).mpr h)
  | cons path paths =>
    rw [hpaths] at hmem hincreasing
    exact .changed (List.cons_ne_nil path paths) hincreasing hmem

theorem Notes.eq_nil {source : String} {changes : String → Prop} {es : List Entry}
    (h : Notes source changes es) (hnone : ∀ path, ¬changes path) : es = [] := by
  cases h with
  | nothing => rfl
  | @changed paths ne_nil _ mem_iff =>
    obtain ⟨path, hpath⟩ := List.exists_mem_of_ne_nil paths ne_nil
    exact absurd ((mem_iff path).mp hpath) (hnone path)

theorem Notes.level_eq_info {source : String} {changes : String → Prop} {es : List Entry}
    (h : Notes source changes es) : ∀ e ∈ es, e.level = .info := by
  cases h with
  | nothing => exact nofun
  | changed => exact List.forall_mem_singleton.mpr rfl

namespace Sources

theorem get?_beneathOverrides (s : Sources) :
    s.beneathOverrides.get? = fun path ↦ (s.env.get? path).or (s.file.get? path) :=
  funext (TextMap.get?_extend s.file s.env)

/-- Values that were merged before stand aside for the sources that they came from. -/
theorem merge_merge (s : Sources) : { s with file := s.merge }.merge = s.merge := by
  refine TextMap.ext_get? fun path ↦ ?_
  rw [get?_merge, get?_merge]
  cases s.overrides.bind (·.get? path) with
  | some value => rfl
  | none => cases s.env.get? path <;> rfl

/-- **Precedence.** After a merge each path has the value of the overrides, else of the environment,
else of the file, and no other path has one. Merging the outcome with the same environment and
overrides again gives the outcome. The journal holds what the environment changes in the values of
the file, then what the overrides change in those of both, and nothing else; all of it is for
whoever runs the program. -/
theorem merge_and_journal (names : Journal.SourceNames) (s : Sources) :
    (∀ path, s.merge.get? path
      = (s.overrides.bind (·.get? path)).or ((s.env.get? path).or (s.file.get? path))) ∧
    { s with file := s.merge }.merge = s.merge ∧
    ∃ ofEnv ofOverrides,
      Notes names.env (Changes s.file.get? s.env.get?) ofEnv ∧
      Notes names.overrides
        (Changes (fun path ↦ (s.env.get? path).or (s.file.get? path))
          (fun path ↦ s.overrides.bind (·.get? path))) ofOverrides ∧
      Journal.ofMerge names s = ofEnv ++ ofOverrides ∧
      ∀ e ∈ Journal.ofMerge names s, e.level = .info := by
  have hfile : Journal.ofLayer names.file ∅ s.file = [] :=
    (Journal.notes_ofLayer names.file ∅ s.file).eq_nil fun path ⟨_, _, hold, _⟩ ↦ nomatch hold
  have henv := Journal.notes_ofLayer names.env s.file s.env
  have hoverrides : Notes names.overrides
      (Changes (fun path ↦ (s.env.get? path).or (s.file.get? path))
        (fun path ↦ s.overrides.bind (·.get? path)))
      (s.overrides.elim [] (Journal.ofLayer names.overrides s.beneathOverrides)) := by
    cases s.overrides with
    | none => exact .nothing fun path ⟨_, _, _, hnew, _⟩ ↦ nomatch hnew
    | some overrides =>
      rw [← get?_beneathOverrides]
      exact Journal.notes_ofLayer names.overrides s.beneathOverrides overrides
  refine ⟨s.get?_merge, s.merge_merge, _, _, henv, hoverrides, ?_, ?_⟩
  · rw [Journal.ofMerge, hfile, List.nil_append]
  · rw [Journal.ofMerge, hfile, List.nil_append]
    intro e he
    exact (List.mem_append.mp he).elim (henv.level_eq_info e) (hoverrides.level_eq_info e)

end Sources

end PropertyCatalog
