import InstanceCatalog.Files.Basic

/-!
A file system in memory: each absolute path, as the list of names from the root, has at most one
entry. Relative paths start at the working directory, and every step of a path must start in a
directory, also one that a later `..` leaves again.
-/

namespace InstanceCatalog

inductive DiskEntry
  | file (contents : Bytes)
  | directory
deriving DecidableEq, Repr

def DiskEntry.isFile : DiskEntry → Bool
  | file _ => true
  | directory => false

structure Disk where
  entries : List (List Text × DiskEntry)
deriving DecidableEq, Repr

namespace Disk

/-- The root is always a directory. -/
def found? (disk : Disk) (path : List Text) : Option DiskEntry :=
  if path.isEmpty then some .directory else disk.entries.lookup path

def put (disk : Disk) (path : List Text) (entry : DiskEntry) : Disk :=
  ⟨(path, entry) :: disk.entries.filter (·.1 != path)⟩

def putDirectories (disk : Disk) (path : List Text) : Disk :=
  ((List.range (path.length + 1)).map path.take).foldl
    (fun disk above =>
      if (disk.found? above).isSome then disk else disk.put above .directory) disk

def workingDirectory : List Text := ["scratch".toList, "work".toList]

def initial : Disk := putDirectories ⟨[]⟩ workingDirectory

def withWorkEntry (disk : Disk) (path : Text) (entry : DiskEntry) : Disk :=
  let absolute := workingDirectory ++ (Path.names path).filter (!·.isEmpty)
  (disk.putDirectories absolute.dropLast).put absolute entry

def startOf (path : Text) : List Text := if path.head? = some '/' then [] else workingDirectory

def isIdle (name : Text) : Bool := name.isEmpty || name = ['.']

def walkName (at_ : List Text) (name : Text) : List Text :=
  if isIdle name then at_
  else if name = ['.', '.'] then at_.dropLast
  else at_ ++ [name]

/-- Follows names from a path that must be a directory as long as names are left. -/
def walk (disk : Disk) (start : List Text) : List Text → Except FileError (List Text)
  | [] => .ok start
  | name :: rest =>
    match disk.found? start with
    | none => .error .notFound
    | some (.file _) => .error .notDirectory
    | some .directory =>
      if 255 < (Utf8.encode name).length then .error .invalidName
      else walk disk (walkName start name) rest

/-- Where a path leads; whether anything is there is for the caller to ask. -/
def resolve (disk : Disk) (path : Text) : Except FileError (List Text) :=
  if path.contains '\x00' then .error .invalidInput
  else if path.isEmpty then .error .notFound
  else disk.walk (startOf path) (Path.names path)

def openFile (disk : Disk) (path : Text) : Except FileError (Except FileError Bytes) := do
  let absolute ← disk.resolve path
  match disk.found? absolute with
  | none => .error .notFound
  | some .directory => return .error .isDirectory
  | some (.file contents) => return .ok contents

/-- The last name of a path names no file when it is empty or a dot name. -/
def endsInDirectory (path : Text) : Bool :=
  match (Path.names path).getLast? with
  | some name => name.isEmpty || name = ['.'] || name = ['.', '.']
  | none => true

/-- The most bytes of a path at which something is made. -/
def pathLimit : Nat := 4095

/-- Replaces the contents of a file, or makes a new one in a directory that exists. -/
def write (disk : Disk) (path : Text) (contents : Bytes) : Except FileError Disk := do
  if path.contains '\x00' then throw .invalidInput
  if path.isEmpty then throw .notFound
  if pathLimit < (Utf8.encode path).length then throw .invalidName
  let names := Path.names path
  let above ← disk.walk (startOf path) names.dropLast
  match disk.found? above with
  | none => throw .notFound
  | some (.file _) => throw .notDirectory
  | some .directory =>
    if endsInDirectory path then throw .isDirectory
    let absolute ← disk.walk (startOf path) names
    match disk.found? absolute with
    | some .directory => throw .isDirectory
    | _ => return disk.put absolute (.file contents)

def list (disk : Disk) (path : Text) : Except FileError (List DirectoryEntry) := do
  let absolute ← disk.resolve path
  match disk.found? absolute with
  | none => .error .notFound
  | some (.file _) => .error .notDirectory
  | some .directory =>
    return disk.entries.filterMap fun (path, entry) =>
      match path.getLast? with
      | some name =>
        if path.dropLast = absolute then some ⟨name, entry.isFile⟩ else none
      | none => none

/-- The files above or below the working directory's parent whose contents are new, by their
paths from that parent. -/
def changes (before after : Disk) : List (Text × Bytes) :=
  after.entries.filterMap fun (path, entry) =>
    match entry with
    | .file contents =>
      if before.found? path = some entry then none
      else some (List.intercalate ['/'] (path.drop 1), contents)
    | .directory => none

def attempt (step : Disk → Except FileError Disk) : StateM Disk (Except FileError Unit) := do
  match step (← get) with
  | .ok disk => set disk; return .ok ()
  | .error e => return .error e

/-- Makes the directory that names lead to, the last name given first. One that is there already is
as good. -/
def makeDirectory (start names : List Text) : StateM Disk (Except FileError Unit) :=
  attempt fun disk => do
    let place ← disk.walk start (names.dropWhile List.isEmpty).reverse
    match disk.found? place with
    | none => return disk.put place .directory
    | some .directory => return disk
    | some (.file _) => throw .other

/-- Makes a directory, where the way to it is missing after those above it. -/
def makeAfter (above make : StateM Disk (Except FileError Unit)) :
    StateM Disk (Except FileError Unit) := do
  match ← make with
  | .error .notFound =>
    match ← above with
    | .ok () => make
    | .error cause => return .error cause
  | answer => return answer

/-- Makes the directories on a way, the last name given first. Idle names end no way. -/
def makeAll (start : List Text) : List Text → StateM Disk (Except FileError Unit)
  | [] => return .ok ()
  | name :: above =>
    if isIdle name then makeAll start above
    else makeAfter (makeAll start above) (makeDirectory start (name :: above))

/-- Makes the directory of a path and those above it that are missing. When one of them is refused,
those above it stay. -/
def makePath (path : Text) : StateM Disk (Except FileError Unit) :=
  if path.contains '\x00' then return .error .invalidInput
  else if path.isEmpty then return .ok ()
  else if pathLimit < (Utf8.encode path).length then return .error .invalidName
  else
    let names := (Path.names path).reverse
    makeAfter (makeAll (startOf path) ((names.dropWhile isIdle).drop 1))
      (makeDirectory (startOf path) names)

def createDirectories (disk : Disk) (path : Text) : Except FileError Unit × Disk :=
  makePath path disk

def access : FileAccess (StateM Disk) where
  openFile path := return (← get).openFile path
  write path contents := attempt (·.write path contents)
  createDirectories := makePath
  list path := return (← get).list path

end Disk
end InstanceCatalog
