import PropertyCatalog.BoundValue

/-!
# Precedence of sources

Values come from a file, from the environment and from explicit overrides; where several bind a
path, the later source wins.
-/

namespace PropertyCatalog

/-- The values of each source. -/
structure Sources where
  /-- The values of the file. -/
  file : BoundValues
  /-- The values of the environment. -/
  env : BoundValues
  /-- The explicit values, if there are any. -/
  overrides : Option BoundValues

namespace Sources

/-- The values after the environment. -/
def beneathOverrides (s : Sources) : BoundValues := s.file.extend s.env

/-- The value of each path by the last source that binds it. -/
def merge (s : Sources) : BoundValues :=
  s.overrides.elim s.beneathOverrides s.beneathOverrides.extend

theorem get?_merge (s : Sources) (path : String) :
    s.merge.get? path
      = (s.overrides.bind (·.get? path)).or ((s.env.get? path).or (s.file.get? path)) := by
  rw [merge, beneathOverrides]
  cases s.overrides with
  | none => rw [Option.elim_none, Option.bind_none, Option.none_or, TextMap.get?_extend]
  | some overrides =>
    rw [Option.elim_some, Option.bind_some, TextMap.get?_extend, TextMap.get?_extend]

end Sources

/-! ## Laying a source over values -/

/-- Values that a source is laid over, value by value. -/
structure Layering where
  /-- The values, with what has been put over them so far. -/
  values : BoundValues
  /-- The paths whose values have changed, in the order in which they did. -/
  changed : List String

namespace Layering

/-- A value is put at a path. The path is noted if a value stood there that is not the one that
stands there now. -/
def put (l : Layering) (path : String) (value : BoundValue) : Layering :=
  let values := l.values.insert path value
  let isChange := (l.values.get? path).any fun previous ↦ values.get? path ≠ some previous
  ⟨values, if isChange then l.changed ++ [path] else l.changed⟩

/-- The values of a source are put over others, in the order of their paths. -/
def ofSource (below above : BoundValues) : Layering :=
  above.entries.foldl (fun l e ↦ l.put e.1 e.2) ⟨below, []⟩

end Layering

/-- The paths that a source binds to other values than those that it is laid over. -/
def changedPaths (below above : BoundValues) : List String := (Layering.ofSource below above).changed

end PropertyCatalog
