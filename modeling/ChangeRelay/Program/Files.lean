import ChangeRelay.Sql.Session

/-!
# The files of a run

The program runs in a directory of its own, under `/tmp`. The file tree it sees holds that
directory, the configuration file written into it, and the SQLite databases of the run, each
under its absolute path.

A path is walked as the operating system walks it: from the root when it starts with `/`, else
from the working directory; empty and `.` parts stay, `..` goes up (the root is its own parent),
and every part but the last must be an existing directory. A trailing `/` asks for a directory.
The faults are the system's, in its words: a missing part, a part that is not a directory,
reading a directory, and a file that is not text.
-/

namespace ChangeRelay.Program

/-- What a path of the file tree holds. -/
inductive Entry where
  | directory
  | text (content : String)
  | database (db : Sql.Database)
  deriving Inhabited

/-- Why a file could not be read. -/
inductive FileFault where
  | missing
  | notDirectory
  | isDirectory
  | notText
  deriving DecidableEq, Repr

/-- The fault as the system words it. -/
def FileFault.message : FileFault → String
  | .missing => "No such file or directory (os error 2)"
  | .notDirectory => "Not a directory (os error 20)"
  | .isDirectory => "Is a directory (os error 21)"
  | .notText => "stream did not contain valid UTF-8"

/-- The directory a run works in. -/
def runDirectory : String := "/tmp/relay-run"

/-- The file tree of a run, by absolute path, and the directory relative paths start from. -/
structure Files where
  cwd : String := runDirectory
  entries : List (String × Entry) := [("/", .directory), ("/tmp", .directory), (runDirectory, .directory)]
  deriving Inhabited

/-- The absolute path of a list of names below the root. -/
def pathOfParts (parts : List String) : String := "/" ++ "/".intercalate parts

/-- The names of an absolute path below the root. -/
def partsOfPath (path : String) : List String := (path.splitOn "/").filter (· != "")

namespace Files

/-- What a path holds, by its absolute path. -/
def entry? (fs : Files) (path : String) : Option Entry := fs.entries.lookup path

/-- Whether an absolute path is a directory. -/
def isDirectory (fs : Files) (path : String) : Bool :=
  match fs.entry? path with
  | some .directory => true
  | _ => false

/-- Walks the parts of a path from a directory: the absolute path of the last part. -/
def walk (fs : Files) : List String → List String → Except FileFault (List String)
  | at_, [] => .ok at_
  | at_, [p] =>
    if p == "" || p == "." then .ok at_
    else if p == ".." then .ok at_.dropLast
    else .ok (at_ ++ [p])
  | at_, p :: rest =>
    if p == "" || p == "." then walk fs at_ rest
    else if p == ".." then walk fs at_.dropLast rest
    else
      let next := at_ ++ [p]
      match fs.entry? (pathOfParts next) with
      | none => .error .missing
      | some .directory => walk fs next rest
      | some _ => .error .notDirectory

/-- The absolute path a path names, and whether it must be a directory. -/
def resolve (fs : Files) (path : String) : Except FileFault (String × Bool) :=
  if path.isEmpty then .error .missing
  else
    let start := if path.startsWith "/" then [] else partsOfPath fs.cwd
    let asksDirectory := path.endsWith "/" || path.endsWith "/." || path == "."
    (fun parts => (pathOfParts parts, asksDirectory)) <$> fs.walk start (path.splitOn "/")

/-- Reads a text file. -/
def readText (fs : Files) (path : String) : Except FileFault String := do
  let (p, asksDirectory) ← fs.resolve path
  match fs.entry? p with
  | none => .error .missing
  | some .directory => .error .isDirectory
  | some (.text content) => if asksDirectory then .error .notDirectory else .ok content
  | some (.database _) => if asksDirectory then .error .notDirectory else .error .notText

/-- Puts an entry at an absolute path, in place of what was there. -/
def put (fs : Files) (path : String) (e : Entry) : Files :=
  { fs with entries := fs.entries.filter (·.1 != path) ++ [(path, e)] }

/-- Writes a text file, at a path relative to the working directory unless it is absolute. -/
def writeText (fs : Files) (path content : String) : Files :=
  let parts := if path.startsWith "/" then partsOfPath path else partsOfPath fs.cwd ++ partsOfPath path
  fs.put (pathOfParts parts) (.text content)

/-- Marks an absolute path and every directory above it as directories. -/
def withDirectory (fs : Files) (path : String) : Files :=
  let parts := partsOfPath path
  (List.range (parts.length + 1)).foldl (fun fs n =>
    let p := pathOfParts (parts.take n)
    if fs.isDirectory p then fs else fs.put p .directory) fs

/-- Puts a text file at a path, relative to the working directory unless it is absolute, with
every directory above it. -/
def plantText (fs : Files) (path content : String) : Files :=
  let parts := if path.startsWith "/" then partsOfPath path else partsOfPath fs.cwd ++ partsOfPath path
  (fs.withDirectory (pathOfParts parts.dropLast)).put (pathOfParts parts) (.text content)

end Files

/-- Why a database file could not be opened, with SQLite's result code. -/
structure OpenFault where
  code : Nat
  message : String
  deriving DecidableEq, Repr

/-- The file cannot be opened: a missing or unusable directory, or a directory in its place. -/
def OpenFault.unopenable : OpenFault := ⟨14, "unable to open database file"⟩

/-- The file holds something else than a database. -/
def OpenFault.notDatabase : OpenFault := ⟨26, "file is not a database"⟩

namespace Files

/-- Opens, creating it when missing, the database at a path: its absolute path and contents. An
empty text file is an empty database. -/
def openDatabase (fs : Files) (path : String) : Except OpenFault (String × Sql.Database) :=
  match fs.resolve path with
  | .error _ => .error .unopenable
  | .ok (_, true) => .error .unopenable
  | .ok (p, false) =>
    match fs.entry? p with
    | none => .ok (p, {})
    | some .directory => .error .unopenable
    | some (.text "") => .ok (p, {})
    | some (.text _) => .error .notDatabase
    | some (.database db) => .ok (p, db)

/-- Stores a database's contents at an absolute path. -/
def saveDatabase (fs : Files) (path : String) (db : Sql.Database) : Files := fs.put path (.database db)

end Files

end ChangeRelay.Program
