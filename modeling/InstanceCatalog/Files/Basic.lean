import InstanceCatalog.Text.Utf8

namespace InstanceCatalog

inductive FileError
  | notFound
  | isDirectory
  | notDirectory
  /-- The contents are no UTF-8 text. -/
  | invalidData
  /-- The path holds a NUL character. -/
  | invalidInput
  /-- The path, or a name on it, is too long. -/
  | invalidName
  | other
deriving DecidableEq, Repr

structure DirectoryEntry where
  name : Text
  isFile : Bool
deriving DecidableEq, Repr

/-- What a program needs of a file system. Opening and reading fail apart from each other: a
directory can be opened and not read. -/
structure FileAccess (m : Type → Type) where
  openFile : Text → m (Except FileError (Except FileError Bytes))
  write : Text → Bytes → m (Except FileError Unit)
  createDirectories : Text → m (Except FileError Unit)
  list : Text → m (Except FileError (List DirectoryEntry))

namespace FileAccess

def readText [Monad m] (files : FileAccess m) (path : Text) : m (Except FileError Text) := do
  match ← files.openFile path with
  | .error e => return .error e
  | .ok (.error e) => return .error e
  | .ok (.ok bytes) =>
    match Utf8.decode bytes with
    | some text => return .ok text
    | none => return .error .invalidData

end FileAccess

namespace Path

/-- A path below a base path; an absolute path stands for itself. -/
def join (base path : Text) : Text :=
  if path.head? = some '/' || base.isEmpty then path
  else if base.getLast? = some '/' then base ++ path
  else base ++ '/' :: path

/-- The names between the slashes, with an empty name for each slash too many. -/
def names (path : Text) : List Text := List.splitOn '/' path

end Path
end InstanceCatalog
