import InstanceCatalog.Files.Basic
import InstanceCatalog.Text.Quoted

namespace InstanceCatalog

inductive Failure
  | missingColumn (vendor column : Text) (headers : List Text)
  /-- Record number `index` of an export cannot be read; number zero is the header record. -/
  | badRecord (index : Nat)
  | opening (path : Text) (cause : FileError)
  /-- A failure while a named file was being read. -/
  | reading (path : Text) (failure : Failure)
  | writing (path : Text) (cause : FileError)
  | creating (path : Text) (cause : FileError)
  | readingConfig (path : Text) (cause : FileError)
  | parsingConfig (path : Text)
  | readingSchemas (path : Text) (cause : FileError)
  | parsingSchemas (path : Text)
  | writingRow (size : Text)
  | flushing (cause : FileError)
  | finishing (reason : Text)
  | buildingClient
  | nothingDiscovered
  | noSchemas
  | vendorsFailed (count : Nat)
deriving DecidableEq, Repr

namespace Failure

inductive Root
  /-- The program's own judgement. -/
  | rule
  | table
  | document
  | network
  | file (cause : FileError)
deriving DecidableEq, Repr

def root : Failure → Root
  | missingColumn .. | finishing _ | nothingDiscovered | noSchemas | vendorsFailed _ => .rule
  | badRecord _ | writingRow _ => .table
  | opening _ cause | writing _ cause | creating _ cause | readingConfig _ cause
  | readingSchemas _ cause | flushing cause => .file cause
  | reading _ failure => failure.root
  | parsingConfig _ | parsingSchemas _ => .document
  | buildingClient => .network

def message : Failure → Text
  | missingColumn vendor column headers =>
    vendor ++ ": column `".toList ++ column ++ "` not found in ".toList ++ Text.quotedList headers
  | badRecord 0 => "CSV parse error in header record".toList
  | badRecord (index + 1) => "CSV parse error at record ".toList ++ Text.ofNat (index + 1)
  | opening path _ => "opening ".toList ++ path
  | reading path failure => "reading ".toList ++ path ++ ": ".toList ++ failure.message
  | writing path _ => "writing ".toList ++ path
  | creating path _ => "creating ".toList ++ path
  | readingConfig path _ => "reading config ".toList ++ path
  | parsingConfig path => "parsing config ".toList ++ path
  | readingSchemas path _ => "reading vendor schemas ".toList ++ path
  | parsingSchemas path => "parsing vendor schemas ".toList ++ path
  | writingRow size => "writing row for ".toList ++ size
  | flushing _ => "flushing CSV".toList
  | finishing reason => "finishing CSV: ".toList ++ reason
  | buildingClient => "building HTTP client".toList
  | nothingDiscovered =>
    "no series documents discovered; refusing to write an empty output".toList
  | noSchemas => "no vendor schemas selected".toList
  | vendorsFailed count => Text.ofNat count ++ " vendor(s) failed".toList

/-- The first line that a program prints on failing: only the outermost cause. -/
def headline : Failure → Text
  | reading path _ => "reading ".toList ++ path
  | failure => failure.message

end Failure
end InstanceCatalog
