import InstanceCatalog.Command.Program

/-! The command line: the first argument names the program. There is no network and no other tool,
so documents come from a local root and tables stay as they are written. -/

namespace InstanceCatalog

def fileError : IO.Error → FileError
  | .noFileOrDirectory .. => .notFound
  | .inappropriateType _ code _ => if code = 20 then .notDirectory else .isDirectory
  | _ => .other

def attemptFile (action : IO α) : IO (Except FileError α) := do
  try return .ok (← action)
  catch e => return .error (fileError e)

def directoryEntry (entry : IO.FS.DirEntry) : IO DirectoryEntry := do
  let kind := (← entry.path.metadata).type
  return ⟨entry.fileName.toList, match kind with | .file => true | _ => false⟩

def listDirectory (path : Text) : IO (List DirectoryEntry) := do
  let directory : IO.FS.DirEntry := ⟨String.ofList path, "."⟩
  (← directory.path.readDir).toList.mapM directoryEntry

/-- The files of the operating system. A directory can be opened and not read. -/
def systemFiles : FileAccess IO where
  openFile path := do
    match ← attemptFile (IO.FS.readBinFile (String.ofList path)) with
    | .ok contents => return .ok (.ok contents.toList)
    | .error .isDirectory => return .ok (.error .isDirectory)
    | .error cause => return .error cause
  write path contents :=
    attemptFile (IO.FS.writeBinFile (String.ofList path) ⟨contents.toArray⟩)
  createDirectories path := attemptFile (IO.FS.createDirAll (String.ofList path))
  list path := attemptFile (listDirectory path)

end InstanceCatalog

open InstanceCatalog in
def main (arguments : List String) : IO UInt32 := do
  let outcome ← match arguments with
    | [] => pure .misuse
    | name :: rest =>
      match Program.ofName? name.toList with
      | none => pure .misuse
      | some program => program.run systemFiles .offline (rest.map String.toList)
  if let some text := outcome.errorText? then IO.eprintln (String.ofList text)
  return outcome.exitCode.toUInt32
