import FilterQuery.Files.Path

/-!
# File systems

A file system is a tree of directories and files below a root that is always
there. It is kept flat: every file and directory is listed by its location, the
names on the way from the root to it. A path is followed name by name, from the
root or from the working directory, and the first name that does not lead on is
the fault.

Two views describe what an operation does: `lookup`, what stands at a location,
and `file?`, the content of the file there. Putting an entry changes both at one
location only (`lookup_put_of_ne`), and a directory that is made where nothing
stood changes the content of no file (`file?_put_directory`).
-/

namespace FilterQuery

/-- Why an operation on a file fails. -/
inductive FileFault where
  /-- A name on the way leads nowhere. -/
  | notFound
  /-- The place is taken. -/
  | alreadyExists
  /-- A file stands where a directory should. -/
  | notDirectory
  /-- A directory stands where a file should. -/
  | isDirectory
  /-- A name, or the whole path, is too long. -/
  | tooLong
  /-- The path holds the null character. -/
  | nullInPath
  /-- What was read is not text. -/
  | notText
  deriving DecidableEq, Repr, Inhabited

/-- The wording of a fault; those of the operating system bear its number. -/
def FileFault.message : FileFault → String
  | notFound => "No such file or directory (os error 2)"
  | alreadyExists => "File exists (os error 17)"
  | notDirectory => "Not a directory (os error 20)"
  | isDirectory => "Is a directory (os error 21)"
  | tooLong => "File name too long (os error 36)"
  | nullInPath => "file name contained an unexpected NUL byte"
  | notText => "stream did not contain valid UTF-8"

/-- Bytes as text. -/
def decodeText (content : ByteArray) : Except FileFault String :=
  match String.fromUTF8? content with
  | some s => .ok s
  | none => .error .notText

/-- The names on the way from the root. -/
abbrev Location := List String

/-- What stands at a location. -/
inductive Entry where
  /-- A file with its content. -/
  | file (content : ByteArray)
  /-- A directory. -/
  | directory
  deriving Inhabited

instance : DecidableEq Entry
  | .file a, .file b =>
    match ByteArray.instDecidableEq a b with
    | isTrue h => isTrue (congrArg Entry.file h)
    | isFalse h => isFalse fun heq => h (Entry.file.inj heq)
  | .directory, .directory => isTrue rfl
  | .file _, .directory | .directory, .file _ => isFalse nofun

/-- The content of a file; a directory has none. -/
def Entry.content? : Entry → Option ByteArray
  | file content => some content
  | directory => none

/-- A file system, as a program that works in one of its directories sees it. -/
structure FileSystem where
  /-- The files and directories below the root. -/
  entries : List (Location × Entry)
  /-- Where paths start that do not start at the root. -/
  workingDirectory : Location
  deriving Inhabited

namespace FileSystem

/-- What stands at a location; at the root there is a directory. -/
def lookup (fs : FileSystem) : Location → Option Entry
  | [] => some .directory
  | name :: names => fs.entries.lookup (name :: names)

/-- The content of the file at a location. -/
def file? (fs : FileSystem) (location : Location) : Option ByteArray :=
  fs.lookup location >>= Entry.content?

/-- Puts an entry at a location, in place of what stood there. -/
def put (fs : FileSystem) (location : Location) (entry : Entry) : FileSystem :=
  { fs with entries := (location, entry) :: fs.entries.filter (·.1 != location) }

/-! ## Following a path -/

/-- The greatest number of bytes in a name. -/
def maxNameSize : Nat := 255

/-- The greatest number of bytes in a path. -/
def maxPathSize : Nat := 4095

/-- Refuses a location where there is no directory. -/
def enter (fs : FileSystem) (location : Location) : Except FileFault Unit :=
  match fs.lookup location with
  | none => .error .notFound
  | some (.file _) => .error .notDirectory
  | some .directory => .ok ()

/-- Where a name leads from a directory. Two dots lead to the directory around;
at any other name there may be nothing yet. -/
def step (fs : FileSystem) (location : Location) (name : String) :
    Except FileFault Location := do
  fs.enter location
  if name = ".." then .ok location.dropLast
  else if name.utf8ByteSize > maxNameSize then .error .tooLong
  else .ok (location ++ [name])

/-- Where names lead from a directory, one after the other. -/
def walk (fs : FileSystem) (location : Location) : List String → Except FileFault Location
  | [] => .ok location
  | name :: names => do
    let location ← fs.step location name
    fs.walk location names

/-- Where the names of a path start. -/
def start (fs : FileSystem) (path : Path) : Location :=
  if path.isAbsolute then [] else fs.workingDirectory

/-- Refuses a text that is no path. -/
def checkPath (text : String) : Except FileFault Unit :=
  if '\x00' ∈ text.toList then .error .nullInPath
  else if text.utf8ByteSize > maxPathSize then .error .tooLong
  else if text = "" then .error .notFound
  else .ok ()

/-- Where a path leads. -/
def follow (fs : FileSystem) (path : Path) : Except FileFault Location := do
  checkPath path.text
  fs.walk (fs.start path) path.names

/-- What a path leads to. A path that does not end in a name has to lead to a
directory. -/
def get (fs : FileSystem) (path : Path) : Except FileFault Entry := do
  let location ← fs.follow path
  if path.ending ≠ .name then fs.enter location
  match fs.lookup location with
  | none => .error .notFound
  | some entry => .ok entry

/-- Whether a path leads to a file or directory. -/
def contains (fs : FileSystem) (path : Path) : Bool :=
  (fs.get path).isOk

/-! ## Reading and writing -/

/-- The text of the file that a path leads to. -/
def readText (fs : FileSystem) (path : Path) : Except FileFault String := do
  match ← fs.get path with
  | .file content => decodeText content
  | .directory => .error .isDirectory

/-- The location of the file that is written under a path. The file need not be
there, but the directory around it has to be, and no directory may be in the
file's place. A slash after a name asks for a directory, whatever the name. -/
def target (fs : FileSystem) (path : Path) : Except FileFault Location := do
  checkPath path.text
  match path.ending with
  | .name =>
    let location ← fs.follow path
    if fs.lookup location = some .directory then .error .isDirectory
    else .ok location
  | .slash =>
    fs.enter (← fs.walk (fs.start path) path.names.dropLast)
    .error .isDirectory
  | .dots =>
    fs.enter (← fs.follow path)
    .error .isDirectory

/-- Writes a file, in place of what it held. -/
def write (fs : FileSystem) (path : Path) (content : ByteArray) :
    Except FileFault FileSystem := do
  return fs.put (← fs.target path) (.file content)

/-! ## Making directories -/

/-- Makes the directory to which a path leads, in a directory that is there. -/
def makeDirectory (fs : FileSystem) (path : Path) : Except FileFault FileSystem := do
  let location ← fs.follow path
  if path.ending = .dots ∨ (fs.lookup location).isSome then .error .alreadyExists
  else .ok (fs.put location .directory)

/-- Whether a path leads to a directory. -/
def isDirectory (fs : FileSystem) (path : Path) : Bool :=
  match fs.get path with
  | .ok .directory => true
  | _ => false

/-- Makes a directory unless it is there. -/
def ensureDirectory (fs : FileSystem) (path : Path) : FileSystem × Except FileFault Unit :=
  match fs.makeDirectory path with
  | .ok fs => (fs, .ok ())
  | .error fault => (fs, if fs.isDirectory path then .ok () else .error fault)

/-- Makes the first of these directories unless it is there, and before it those
of the others that are missing: each is the directory around the one before. The
empty path is always there. What was made before a fault stays. -/
def makeDirectories (fs : FileSystem) : List Path → FileSystem × Except FileFault Unit
  | [] => (fs, .ok ())
  | path :: around =>
    if path.text = "" then (fs, .ok ())
    else
      match fs.ensureDirectory path with
      | (fs, .error .notFound) =>
        match fs.makeDirectories around with
        | (fs, .ok ()) => fs.ensureDirectory path
        | (fs, .error fault) => (fs, .error fault)
      | outcome => outcome

/-- Makes the directories around the file that a path names. -/
def makeParents (fs : FileSystem) (path : Path) : FileSystem × Except FileFault Unit :=
  fs.makeDirectories path.ancestors

/-! ## What putting an entry does to the views -/

theorem lookup_filter_of_ne {α β : Type} [BEq α] [LawfulBEq α] {k l : α} (h : k ≠ l)
    (xs : List (α × β)) : (xs.filter (·.1 != l)).lookup k = xs.lookup k := by
  induction xs with
  | nil => rfl
  | cons x xs ih =>
    obtain ⟨key, value⟩ := x
    by_cases hkey : key = l
    · subst hkey
      simp [ih, List.lookup_cons, beq_false_of_ne h]
    · simp [hkey, List.lookup_cons, ih]

theorem lookup_put_self {fs : FileSystem} {location : Location} {entry : Entry}
    (h : location ≠ []) : (fs.put location entry).lookup location = some entry := by
  cases location with
  | nil => exact absurd rfl h
  | cons name names => simp [lookup, put]

theorem lookup_put_of_ne {fs : FileSystem} {location other : Location} {entry : Entry}
    (h : other ≠ location) : (fs.put location entry).lookup other = fs.lookup other := by
  cases other with
  | nil => rfl
  | cons name names =>
    simp only [lookup, put, List.lookup_cons]
    rw [beq_false_of_ne h]
    exact lookup_filter_of_ne h _

theorem file?_put_directory {fs : FileSystem} {location : Location}
    (h : fs.lookup location = none) (other : Location) :
    (fs.put location .directory).file? other = fs.file? other := by
  by_cases hother : other = location
  · subst hother
    have hne : other ≠ [] := by
      rintro rfl
      cases h
    simp [file?, lookup_put_self hne, h, Entry.content?]
  · simp [file?, lookup_put_of_ne hother]

end FileSystem

end FilterQuery
