import PropertyCatalog.Document.Toml.Value

/-!
# Growing tables

A TOML document says piece by piece what its tables hold, and each piece may add to a table only in
the way in which the table came to be. A header opens a table once; it may open one that a longer
header has implied, but none that dotted keys have made. Dotted keys go into tables that dotted keys
have made, and never into one that a header has opened. A value that is written out is closed.
-/

namespace PropertyCatalog.Document.Toml

/-- How a table came to be. -/
inductive Origin where
  /-- A header has opened it. -/
  | opened
  /-- A longer header has implied it. -/
  | implied
  /-- A dotted key has made it. -/
  | dotted
deriving DecidableEq

/-- What stands under a key of a growing table. -/
inductive Growth where
  /-- A value that is written out. -/
  | closed (v : Value)
  /-- A table. -/
  | table (origin : Origin) (entries : List (String × Growth))
  /-- The tables of an array that headers make. -/
  | tables (items : List (List (String × Growth)))

/-- A table that grows: its entries in the order in which they came. -/
abbrev Growing := List (String × Growth)

namespace Growing

/-- Puts something new under a key, at the end or in place of what was there. -/
def set (t : Growing) (key : String) (g : Growth) : Growing :=
  if (t.lookup key).isSome then t.map fun e ↦ if e.1 = key then (key, g) else e
  else t ++ [(key, g)]

/-- Replaces the last of some tables by its image, if there are both. -/
def onLast? (f : Growing → Option Growing) (items : List Growing) : Option (List Growing) := do
  let last ← items.getLast?
  return items.dropLast ++ [← f last]

/-! ## Pairs -/

/-- Binds a key that is not bound yet. -/
def bind? (t : Growing) (key : String) (v : Value) : Option Growing :=
  if (t.lookup key).isSome then none else some (t.set key (.closed v))

/-- Binds the key at the end of a dotted one, of which a part has been followed into a table of the
given origin. -/
def bindWithin? (origin : Origin) : List String → String → Value → Growing → Option Growing
  | [], key, v, t => if origin = .dotted then t.bind? key v else none
  | k :: ks, key, v, t =>
    match t.lookup k with
    | none => (bindWithin? .dotted ks key v []).map fun inner ↦ t.set k (.table .dotted inner)
    | some (.table .opened _) => none
    | some (.table origin inner) =>
      (bindWithin? origin ks key v inner).map fun inner ↦ t.set k (.table origin inner)
    | some (.tables items) =>
      (onLast? (bindWithin? .opened ks key v) items).map fun items ↦ t.set k (.tables items)
    | some (.closed _) => none

def bindPath? (t : Growing) (path : List String) (v : Value) : Option Growing :=
  match path.dropLast, path.getLast? with
  | _, none => none
  | [], some key => t.bind? key v
  | ks, some key => bindWithin? .dotted ks key v t

/-! ## Headers -/

/-- Changes the table at the end of a path of headers; tables on the way that are not there are
implied. -/
def within? (f : Growing → Option Growing) : List String → Growing → Option Growing
  | [], t => f t
  | k :: ks, t =>
    match t.lookup k with
    | none => (within? f ks []).map fun inner ↦ t.set k (.table .implied inner)
    | some (.table origin inner) =>
      (within? f ks inner).map fun inner ↦ t.set k (.table origin inner)
    | some (.tables items) => (onLast? (within? f ks) items).map fun items ↦ t.set k (.tables items)
    | some (.closed _) => none

def open? (key : String) (t : Growing) : Option Growing :=
  match t.lookup key with
  | none => some (t.set key (.table .opened []))
  | some (.table .implied inner) => some (t.set key (.table .opened inner))
  | _ => none

def append? (key : String) (t : Growing) : Option Growing :=
  match t.lookup key with
  | none => some (t.set key (.tables [[]]))
  | some (.tables items) => some (t.set key (.tables (items ++ [[]])))
  | _ => none

/-- Does something to the table that the path without its last key leads to, with that key. -/
def atParent? (f : String → Growing → Option Growing) (path : List String) (t : Growing) :
    Option Growing := do
  let key ← path.getLast?
  within? (f key) path.dropLast t

end Growing

/-! ## What has grown -/

mutual

/-- The value that has grown. -/
def Growth.value : Growth → Value
  | .closed v => v
  | .table _ entries => .table (grownEntries entries)
  | .tables items => .array (grownTables items)

def grownEntries : List (String × Growth) → List (String × Value)
  | [] => []
  | (key, g) :: es => (key, g.value) :: grownEntries es

def grownTables : List (List (String × Growth)) → List Value
  | [] => []
  | t :: ts => .table (grownEntries t) :: grownTables ts

end

end PropertyCatalog.Document.Toml
