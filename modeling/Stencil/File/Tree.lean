import Stencil.Text.Utf8

/-!
# Files

Files in memory, below a working directory, and how a path leads to one. A path is walked name by name from
the working directory, or from the root if it begins with a slash; `.` stays, `..` goes up, and a name can only
be looked up in a directory. Outside of the working directory there are only the directories above it, and
every name there is missing.
-/

namespace Stencil

/-- Why a file cannot be read as text. -/
inductive ReadError where
  /-- A name of the path leads nowhere, or the path is empty. -/
  | notFound
  /-- A name is looked up in something that is no directory. -/
  | notDirectory
  /-- The path leads to a directory. -/
  | isDirectory
  /-- The path or one of its names is too long. -/
  | nameTooLong
  /-- The path contains the character NUL. -/
  | nulInPath
  /-- The bytes of the file are not valid UTF-8. -/
  | notUtf8
  /-- Some other reason, in the words of the system. -/
  | other (reason : String)
  deriving DecidableEq

/-- The message of a reason. -/
def ReadError.message : ReadError → String
  | notFound => "No such file or directory (os error 2)"
  | notDirectory => "Not a directory (os error 20)"
  | isDirectory => "Is a directory (os error 21)"
  | nameTooLong => "File name too long (os error 36)"
  | nulInPath => "file name contained an unexpected NUL byte"
  | notUtf8 => "stream did not contain valid UTF-8"
  | other reason => reason

/-- The text of a file with those bytes. -/
def textOfFile (bytes : List UInt8) : Except ReadError String :=
  match Text.ofBytes? bytes with
  | some text => .ok text
  | none => .error .notUtf8

/-- What stands in a directory under a name. -/
inductive FileEntry where
  /-- A file with its bytes. -/
  | file (bytes : List UInt8)
  /-- A directory. -/
  | directory

/-- Files and directories by their names below the working directory, a name for each step. -/
structure FileTree where
  /-- The entries. -/
  entries : List (List String × FileEntry)

/-- The names of a path, with empty ones where slashes touch. -/
def pathNames (path : String) : List String :=
  (path.toList.splitOn '/').map String.ofList

/-- A place that a walk has reached. -/
inductive Place where
  /-- A directory above the working directory. -/
  | above
  /-- A directory in the working directory, or that directory itself, by the names that lead there. -/
  | directory (names : List String)
  /-- A file. -/
  | file (bytes : List UInt8)

namespace FileTree

/-- The tree of entries whose names may be paths themselves. -/
def ofPaths (entries : List (String × FileEntry)) : FileTree :=
  ⟨entries.map fun (path, entry) => (pathNames path, entry)⟩

/-- The longest name of a file, in bytes. -/
def maxNameSize : Nat := 255

/-- The size in bytes that a path must stay below. -/
def pathSizeLimit : Nat := 4096

/-- What stands under these names. A directory also exists where an entry lies below it. -/
def entry? (tree : FileTree) (names : List String) : Option FileEntry :=
  match tree.entries.lookup names with
  | some entry => some entry
  | none =>
    if tree.entries.any fun (other, _) => names.isPrefixOf other then some .directory else none

/-- Goes on by one name of a path. -/
def step (tree : FileTree) (place : Place) (name : String) : Except ReadError Place :=
  match place with
  | .file bytes => if name = "" then .ok (.file bytes) else .error .notDirectory
  | .above =>
    if name = "" ∨ name = "." ∨ name = ".." then .ok .above
    else if maxNameSize < name.utf8ByteSize then .error .nameTooLong
    else .error .notFound
  | .directory names =>
    if name = "" ∨ name = "." then .ok (.directory names)
    else if name = ".." then .ok (if names.isEmpty then .above else .directory names.dropLast)
    else if maxNameSize < name.utf8ByteSize then .error .nameTooLong
    else
      match tree.entry? (names ++ [name]) with
      | none => .error .notFound
      | some .directory => .ok (.directory (names ++ [name]))
      | some (.file bytes) => .ok (.file bytes)

/-- The bytes of the file that a path leads to. A slash at the end asks for a directory. -/
def bytes (tree : FileTree) (path : String) : Except ReadError (List UInt8) := do
  if path.toList.contains '\x00' then throw .nulInPath
  if path = "" then throw .notFound
  if pathSizeLimit ≤ path.utf8ByteSize then throw .nameTooLong
  let start := if path.toList.head? = some '/' then .above else .directory []
  match ← (pathNames path).foldlM tree.step start with
  | .file bytes => if path.toList.getLast? = some '/' then throw .notDirectory else pure bytes
  | _ => throw .isDirectory

/-- The text of the file that a path leads to. -/
def text (tree : FileTree) (path : String) : Except ReadError String := do
  textOfFile (← tree.bytes path)

end FileTree

end Stencil
