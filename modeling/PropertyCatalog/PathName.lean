/-!
# Names of files

The parts of a path to a file, with `/` between them. Empty parts and single dots say nothing. The
extension of a path is what stands behind the last dot of its last part; a dot in front does not
count, and the step to the folder above is no file. Paths are texts here, and so are extensions: one
that is no UTF-8 cannot occur.
-/

namespace PropertyCatalog.PathName

def steps (path : String) : List (List Char) := path.toList.splitOn '/'

/-- The part stays where it is. -/
def isIdle (step : List Char) : Bool := step = [] || step = ['.']

def isUp (step : List Char) : Bool := step = ['.', '.']

/-- The last part that says something, unless it leads up. -/
def fileName? (path : String) : Option (List Char) :=
  ((steps path).filter (!isIdle ·)).getLast?.filter (!isUp ·)

/-- What stands behind the last dot of a name, if something stands in front of it. -/
def extensionOf? (name : List Char) : Option (List Char) :=
  let front := (name.reverse.dropWhile (· ≠ '.')).drop 1
  if front.isEmpty then none else some (name.reverse.takeWhile (· ≠ '.')).reverse

def extension? (path : String) : Option String :=
  (fileName? path >>= extensionOf?).map String.ofList

end PropertyCatalog.PathName
