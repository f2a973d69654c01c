import InstanceCatalog.Command.Basic
import InstanceCatalog.LookupTable
import InstanceCatalog.Settings
import InstanceCatalog.Vendor.SchemaFile

namespace InstanceCatalog

structure GenerateOptions where
  /-- The directory of the exports. -/
  input : Text
  /-- The directory of the tables. -/
  output : Text
  /-- A file of schemas that replace the built-in ones. -/
  schemaFile : Option Text
  /-- The vendors that are wanted; all if none is named. -/
  vendors : List Text
  /-- Whether the tables are left as they are written. -/
  noFormat : Bool
  debug : Bool
deriving DecidableEq, Repr

namespace GenerateOptions

def rules : List OptionRule := [
  ⟨"input".toList, some 'i', .path⟩,
  ⟨"output".toList, some 'o', .path⟩,
  ⟨"vendors".toList, none, .path⟩,
  ⟨"vendor".toList, none, .repeated⟩,
  ⟨"no-format".toList, none, .flag⟩,
  ⟨"debug".toList, none, .flag⟩]

def ofFound (found : FoundOptions) : GenerateOptions where
  input := (found.value? "input").getD ".".toList
  output := (found.value? "output").getD "../src/cloud".toList
  schemaFile := found.value? "vendors"
  vendors := found.values "vendor"
  noFormat := found.has "no-format"
  debug := found.has "debug"

end GenerateOptions

namespace Generate

/-- The schemas of the vendors named, in any case; all if none is named. -/
def select (vendors : List Text) (schemas : List VendorSchema) : List VendorSchema :=
  if vendors.isEmpty then schemas
  else schemas.filter fun schema => vendors.any (Text.equalsIgnoringAsciiCase · schema.vendor)

/-- Goes through the results: a table that was written is formatted unless that is not wanted.
The answer is how many failed. -/
def review [Monad m] (format : Text → m Unit) (noFormat : Bool) :
    List LookupTable.Result → m Nat
  | [] => return 0
  | .ok (path, _) :: rest => do
    unless noFormat do format path
    review format noFormat rest
  | .error _ :: rest => do
    let failed ← review format noFormat rest
    return failed + 1

def conclude : Nat → Except Failure Unit
  | 0 => .ok ()
  | failed => .error (.vendorsFailed failed)

def schemas [Monad m] (files : FileAccess m) : Option Text → m (Except Failure (List VendorSchema))
  | some path => VendorSchema.load files path
  | none => return .ok VendorSchema.builtIn

def run [Monad m] (files : FileAccess m) (format : Text → m Unit) (options : GenerateOptions) :
    m (Except Failure Unit) := do
  match ← schemas files options.schemaFile with
  | .error failure => return .error failure
  | .ok all =>
    let selected := select options.vendors all
    if selected.isEmpty then return .error .noSchemas
    match ← files.createDirectories options.output with
    | .error cause => return .error (.creating options.output cause)
    | .ok () =>
      let results ← selected.mapM fun schema =>
        LookupTable.generate files schema options.input options.output
      let failed ← review format options.noFormat results
      return conclude failed

def command [Monad m] (files : FileAccess m) (tools : Tools m) (arguments : List Text) :
    m Outcome :=
  let start found := do
    let options := GenerateOptions.ofFound found
    tools.startLog (logDirective "info".toList options.debug)
    run files tools.format options
  Outcome.ofReading start (FoundOptions.read GenerateOptions.rules arguments)

end Generate
end InstanceCatalog
