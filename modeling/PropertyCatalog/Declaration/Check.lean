import PropertyCatalog.Declaration

/-!
# Structural checks of documents

What a declaration document has to have before it is scanned at all: a group, a field in each group,
and for each field a name and a type of 1 to 255 characters. Every problem is found, not the first
one only.
-/

namespace PropertyCatalog.Declaration

/-- A part of a document whose length is out of bounds. -/
inductive Problem where
  /-- There is no group. -/
  | noGroup
  /-- The group at a position has no field. -/
  | noField (group : Nat)
  /-- The length of a field's name. -/
  | name (group field : Nat)
  /-- The length of a field's type. -/
  | declaredType (group field : Nat)
deriving DecidableEq

namespace Problem

private def at' (part : String) (n : Nat) : String := part ++ "[" ++ toString n ++ "]"

/-- Where the problem is. -/
def place : Problem → String
  | noGroup => "groups"
  | noField g => at' "groups" g ++ ".fields"
  | name g f => at' "groups" g ++ "." ++ at' "fields" f ++ ".name"
  | declaredType g f => at' "groups" g ++ "." ++ at' "fields" f ++ ".declared_type"

theorem place_noGroup : noGroup.place = "groups" := rfl

theorem place_noField (g : Nat) : (noField g).place = "groups[" ++ toString g ++ "].fields" := by
  rw [place, at', ← String.toList_inj]
  simp

theorem place_name (g f : Nat) :
    (name g f).place = "groups[" ++ toString g ++ "].fields[" ++ toString f ++ "].name" := by
  rw [place, at', at', ← String.toList_inj]
  simp

theorem place_declaredType (g f : Nat) : (declaredType g f).place =
    "groups[" ++ toString g ++ "].fields[" ++ toString f ++ "].declared_type" := by
  rw [place, at', at', ← String.toList_inj]
  simp

def message (p : Problem) : String := p.place ++ ": length"

end Problem

/-- The text has 1 to 255 characters. -/
def hasNameLength (s : String) : Bool := 1 ≤ s.length && s.length ≤ 255

def Field.problems (group : Nat) (f : Field) (position : Nat) : List Problem :=
  (if hasNameLength f.name then [] else [.name group position]) ++
    if hasNameLength f.declaredType then [] else [.declaredType group position]

def Group.problems (g : Group) (position : Nat) : List Problem :=
  (if g.fields.isEmpty then [.noField position] else []) ++
    g.fields.zipIdx.flatMap fun (f, i) ↦ f.problems position i

namespace Document

def problems (d : Document) : List Problem :=
  (if d.groups.isEmpty then [.noGroup] else []) ++
    d.groups.zipIdx.flatMap fun (g, i) ↦ g.problems i

def isSound (d : Document) : Bool := d.problems.isEmpty

/-- What is said of the problems, in the order of texts. -/
def problemMessages (d : Document) : List String :=
  (d.problems.map (·.message)).mergeSort (· ≤ ·)

end Document

end PropertyCatalog.Declaration
