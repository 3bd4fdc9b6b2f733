import PropertyCatalog.PathName

/-!
# Files

What a program sees of a file system is, for each path, whether a text stands there (`Files`); that
is all that reading takes. Writing takes more, and `FileTree` is what it takes: folders from a root
on, a folder where paths start, links, devices, files that may have several names, and places to
which access is denied.

A path is walked part by part. A link on the way, or at the end, is followed from the folder it is
in, or from the root; the walk ends at a place, which is given by the names that lead there from the
root and through no link. Files at two places are one file exactly if they have one number. Owners,
times and sizes are left out, since nothing that reads or writes a text here looks at them.
-/

namespace PropertyCatalog

/-- What stands at a path. -/
inductive FileStatus where
  /-- Nothing. -/
  | missing
  /-- Something that is not read as text, for the given reason. -/
  | unreadable (reason : String)
  /-- A file with a text. -/
  | text (s : String)
deriving DecidableEq

/-- What a program sees of a file system. A path is a text, as every argument of the program is: a
name whose bytes are no UTF-8 cannot be asked for. -/
abbrev Files := String → FileStatus

/-- Why a file cannot be read or written. -/
inductive FileFault where
  /-- There is no such file or folder. -/
  | notFound
  /-- Access is denied. -/
  | denied
  /-- A part of the path is no folder. -/
  | notFolder
  /-- It is a folder. -/
  | isFolder
  /-- The path, or a part of it, is too long. -/
  | nameTooLong
  /-- Links on the way lead on for too long. -/
  | tooManyLinks
  /-- It holds no text. -/
  | notText
deriving DecidableEq

def FileFault.message : FileFault → String
  | notFound => "No such file or directory (os error 2)"
  | denied => "Permission denied (os error 13)"
  | notFolder => "Not a directory (os error 20)"
  | isFolder => "Is a directory (os error 21)"
  | nameTooLong => "File name too long (os error 36)"
  | tooManyLinks => "Too many levels of symbolic links (os error 40)"
  | notText => "stream did not contain valid UTF-8"

/-- What stands at a place. -/
inductive FileNode where
  /-- A folder. -/
  | folder
  /-- The file with a number. It may stand at other places, too. -/
  | file (number : Nat)
  /-- A link to a path. -/
  | link (target : String)
  /-- A device. What is read from it is always the same, if that is text; what is written to it is
  printed with the output of the program, or goes where nobody sees it. -/
  | device (text : Option String) (prints : Bool)
deriving DecidableEq

/-- A number above that of the file, if it is one. -/
def FileNode.bound : FileNode → Nat
  | file number => number + 1
  | folder | link _ | device .. => 0

/-- A file system. A place is given by the names that lead there from the root. -/
structure FileTree where
  /-- What stands at the places below the root. -/
  node : List (List Char) → Option FileNode
  /-- What the file with a number holds, if that is text. -/
  content : Nat → Option String
  /-- What stands there may not be read. -/
  isHidden : List (List Char) → Bool
  /-- What stands there may not be entered or written, and nothing may be made there. -/
  isClosed : List (List Char) → Bool
  /-- The folder where paths start that do not start at the root. -/
  start : List (List Char)
  /-- A number above those of all files. -/
  count : Nat
  /-- It is above them. -/
  bound_le_count : ∀ {names : List (List Char)} {n : FileNode},
    node names = some n → n.bound ≤ count

/-- What can be put into a file system. -/
inductive FileEntry where
  /-- A folder. -/
  | folder
  /-- A file with its text, if its content is one. -/
  | file (text : Option String)
deriving DecidableEq

namespace FileTree

/-! ## Places -/

/-- What stands at a place. The root is always a folder. -/
def nodeAt? (t : FileTree) (names : List (List Char)) : Option FileNode :=
  if names.isEmpty then some .folder else t.node names

/-- Where a link leads that stands at a place. -/
def linkTarget? (t : FileTree) (names : List (List Char)) : Option String :=
  match t.nodeAt? names with
  | some (.link target) => some target
  | _ => none

/-- The text of what stands at a place. -/
def textOf (t : FileTree) : FileNode → Except FileFault String
  | .folder => .error .isFolder
  | .file number => (t.content number).elim (.error .notText) .ok
  | .link _ => .error .tooManyLinks
  | .device text _ => text.elim (.error .notText) .ok

/-! ## Walks -/

/-- The greatest length of a name, in bytes. -/
def greatestName : Nat := 255

/-- The greatest length of a path, in bytes. -/
def greatestPath : Nat := 4095

def greatestLinks : Nat := 40

/-- Where one part of a path leads from a folder, which may be closed. -/
def enter (isClosed : Bool) (names : List (List Char)) (part : List Char) :
    Except FileFault (List (List Char)) :=
  if part.isEmpty then .ok names
  else if isClosed then .error .denied
  else if PathName.isIdle part then .ok names
  else if PathName.isUp part then .ok names.dropLast
  else if greatestName < (String.ofList part).utf8ByteSize then .error .nameTooLong
  else .ok (names ++ [part])

/-- Where one part of a path leads from a place. -/
def step (t : FileTree) (names : List (List Char)) (part : List Char) :
    Except FileFault (List (List Char)) :=
  match t.nodeAt? names with
  | none => .error .notFound
  | some .folder => enter (t.isClosed names) names part
  | some _ => .error .notFolder

/-- The folder where the walk along a path begins that is met in some folder. -/
def origin (names : List (List Char)) (path : String) : List (List Char) :=
  if path.toList.head? = some '/' then [] else names

/-- The walk along some parts of a path up to the first link, where `follow` takes over. -/
def walkWith (t : FileTree)
    (follow : List (List Char) → List (List Char) → Except FileFault (List (List Char))) :
    List (List Char) → List (List Char) → Except FileFault (List (List Char))
  | names, [] => .ok names
  | names, part :: parts => do
    let next ← t.step names part
    match t.linkTarget? next with
    | none => t.walkWith follow next parts
    | some target => follow (origin names target) (PathName.steps target ++ parts)

/-- The walk along some parts of a path that follows no more than so many links. -/
def walk (t : FileTree) :
    Nat → List (List Char) → List (List Char) → Except FileFault (List (List Char))
  | 0 => t.walkWith fun _ _ ↦ .error .tooManyLinks
  | links + 1 => t.walkWith (t.walk links)

/-- The place that some parts of a path lead to. -/
def resolveParts (t : FileTree) (path : String) (parts : List (List Char)) :
    Except FileFault (List (List Char)) :=
  if path.isEmpty then .error .notFound
  else if greatestPath < path.utf8ByteSize then .error .nameTooLong
  else t.walk greatestLinks (origin t.start path) parts

/-- The place that a path leads to. -/
def resolve (t : FileTree) (path : String) : Except FileFault (List (List Char)) :=
  t.resolveParts path (PathName.steps path)

/-! ## Reading -/

/-- What a program sees at a place. -/
def seen (t : FileTree) (names : List (List Char)) : FileStatus :=
  match t.nodeAt? names with
  | none => .missing
  | some n =>
    if t.isHidden names then .unreadable FileFault.denied.message
    else match t.textOf n with
      | .ok s => .text s
      | .error fault => .unreadable fault.message

/-- What a program sees at a path. -/
def files (t : FileTree) : Files := fun path ↦
  match t.resolve path with
  | .ok names => t.seen names
  | .error _ => .missing

/-- The text at a path, whether or not it may be read. -/
def held? (t : FileTree) (path : String) : Option String :=
  match t.resolve path with
  | .ok names => t.nodeAt? names >>= fun n ↦ (t.textOf n).toOption
  | .error _ => none

/-! ## Writing -/

/-- The file system with something put at a place. -/
def place (t : FileTree) (names : List (List Char)) (n : FileNode) : FileTree :=
  { t with
    node := fun names' ↦ if names' = names then some n else t.node names'
    count := max t.count n.bound
    bound_le_count := by
      intro names' n' h
      split at h
      next =>
        cases h
        exact Nat.le_max_right ..
      next => exact Nat.le_trans (t.bound_le_count h) (Nat.le_max_left ..) }

/-- The number of the file at a place, or a new one if there is none. -/
def numberAt (t : FileTree) (names : List (List Char)) : Nat :=
  match t.nodeAt? names with
  | some (.file number) => number
  | _ => t.count

/-- The file system with some content in the file at a place, which is made if there is none. -/
def keep (t : FileTree) (names : List (List Char)) (text : Option String) : FileTree :=
  { t.place names (.file (t.numberAt names)) with
    content := fun number ↦ if number = t.numberAt names then text else t.content number }

def endsOpen (path : String) : Bool := path.toList.getLast? = some '/'

/-- The parts of the folder where the last part of a path stands that says something. -/
def folderParts (path : String) : List (List Char) :=
  (((PathName.steps path).reverse.dropWhile (·.isEmpty)).drop 1).reverse ++ [['.']]

/-- The file system after a text was written at a place, and what is printed thereby. -/
def writeAt (t : FileTree) (names : List (List Char)) (text : String) :
    Except FileFault (FileTree × String) :=
  match t.nodeAt? names with
  | some .folder => .error .isFolder
  | some (.link _) => .error .tooManyLinks
  | some (.device _ prints) =>
    if t.isClosed names then .error .denied else .ok (t, if prints then text else "")
  | some (.file _) | none =>
    if t.isClosed names then .error .denied else .ok (t.keep names (some text), "")

/-- The file system after a text was written to a path, and what is printed thereby. -/
def write (t : FileTree) (path text : String) : Except FileFault (FileTree × String) := do
  if endsOpen path then
    -- whatever may stand there, the path can only be that of a folder
    let _ ← t.resolveParts path (folderParts path)
    .error .isFolder
  else
    t.writeAt (← t.resolve path) text

/-! ## Building -/

/-- A file system with a folder where paths start, and nothing else. -/
def empty : FileTree where
  node names := if names = [['w', 'o', 'r', 'k']] then some .folder else none
  content _ := none
  isHidden _ := false
  isClosed _ := false
  start := [['w', 'o', 'r', 'k']]
  count := 0
  bound_le_count := by
    intro names n h
    split at h
    next =>
      cases h
      exact Nat.le_refl 0
    next => cases h

/-- The file system with an entry put at a path, and with the folders on the way there. -/
def put (t : FileTree) (path : String) (entry : FileEntry) : FileTree :=
  let top := origin t.start path
  let names := (PathName.steps path).filter (!PathName.isIdle ·)
  let t := (List.range names.length).foldl (fun t n ↦ t.place (top ++ names.take n) .folder) t
  match entry with
  | .folder => t.place (top ++ names) .folder
  | .file text => t.keep (top ++ names) text

end FileTree

end PropertyCatalog
