import ChainParams.FileAccess

/-!
# FileTree — files as a value

Directories and files by their location, and how a path leads to one of them. The names in a path
are entered one after the other: each but the last must stand for a directory, `.` stays where it
is and `..` goes back. A slash at the end asks for a directory.

Of two faults in a path the first on the way is reported, except that a path with too many octets
is refused before it is followed at all.
-/

namespace ChainParams

/-- What stands at a location. -/
inductive FileEntry
  | directory
  | file (content : ByteArray)
  /-- A file that can be neither read nor written, and why. -/
  | barred (reason : SystemError)

/-- The names on the way from the root, so that `[]` is the root. -/
abbrev Location := List String

/-- The entries below the root, each at its `Location`, and in `workplace` the directory where a
path without a leading slash begins. -/
structure FileTree where
  entries : List (Location × FileEntry)
  workplace : Location

namespace FileTree

/-! ## Locations -/

def entry? (t : FileTree) : Location → Option FileEntry
  | [] => some .directory
  | place => t.entries.lookup place

def put (t : FileTree) (place : Location) (entry : FileEntry) : FileTree :=
  { t with entries := (place, entry) :: t.entries }

def isDirectory (t : FileTree) (place : Location) : Bool :=
  match t.entry? place with
  | some .directory => true
  | _ => false

def nameLimit : Nat := 255

def pathLimit : Nat := 4095

/-- The location that `name` stands for in the directory at `place`. -/
def enter (t : FileTree) (place : Location) (name : String) : Except SystemError Location :=
  if !t.isDirectory place then .error .notDirectory
  else if name = "." then .ok place
  else if name = ".." then .ok place.dropLast
  else if nameLimit < name.utf8ByteSize then .error .nameTooLong
  else if (t.entry? (place ++ [name])).isNone then .error .notFound
  else .ok (place ++ [name])

def follow (t : FileTree) (start : Location) (names : List String) :
    Except SystemError Location :=
  names.foldlM t.enter start

/-! ## Paths -/

/-- The names between the slashes of `path`. -/
def namesOf (path : String) : List String :=
  (path.splitOn "/").filter (· ≠ "")

def asksForDirectory (path : String) : Bool :=
  path.toList.getLast? = some '/'

def startOf (t : FileTree) (path : String) : Location :=
  if path.toList.head? = some '/' then [] else t.workplace

/-- Refuses a `path` that is empty or has more octets than `pathLimit`. -/
def checkPath (path : String) : Except SystemError Unit :=
  if path = "" then .error .notFound
  else if pathLimit < path.utf8ByteSize then .error .nameTooLong
  else .ok ()

def locate (t : FileTree) (path : String) : Except SystemError Location := do
  checkPath path
  t.follow (t.startOf path) (namesOf path ++ if asksForDirectory path then ["."] else [])

/-- The location of a file that is to be written at `path`, whether there is one already or not. -/
def locateTarget (t : FileTree) (path : String) : Except SystemError Location := do
  checkPath path
  let names := namesOf path
  match names.getLast? with
  | none => .error .isDirectory
  | some name =>
      -- All names but the last one have to lead to a directory that exists.
      let place ← t.follow (t.startOf path) names.dropLast
      if name = "." ∨ name = ".." then t.enter place name
      else if !t.isDirectory place then .error .notDirectory
      else if asksForDirectory path then .error .isDirectory
      else if nameLimit < name.utf8ByteSize then .error .nameTooLong
      else .ok (place ++ [name])

/-! ## Reading and writing -/

def read (t : FileTree) (path : String) : Except SystemError ByteArray := do
  match t.entry? (← t.locate path) with
  | some (.file content) => .ok content
  | some (.barred reason) => .error reason
  | some .directory => .error .isDirectory
  | none => .error .notFound

/-- The tree `t` with `content` in the file at `path`. -/
def write (t : FileTree) (path content : String) : Except SystemError FileTree := do
  let place ← t.locateTarget path
  match t.entry? place with
  | some .directory => .error .isDirectory
  | some (.barred reason) => .error reason
  | some (.file _) | none => .ok (t.put place (.file content.toUTF8))

instance : FileAccess (StateM FileTree) where
  read path := do return (← get).read path
  write path content := do
    match (← get).write path content with
    | .ok t =>
        set t
        return .ok ()
    | .error e => return .error e

end FileTree
end ChainParams
