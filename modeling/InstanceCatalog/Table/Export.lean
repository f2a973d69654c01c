import InstanceCatalog.Csv.Format
import InstanceCatalog.Table.Basic
import InstanceCatalog.Text.Blank

namespace InstanceCatalog
namespace ExportTable

/-- The trimmed cells of a record, if all of them are text. -/
def cells? (fields : List Bytes) : Option (List Text) :=
  fields.mapM fun field => (Utf8.decode field).map Text.trim

/-- The rows of records, or the number of the first record that is no text. -/
def rows (index : Nat) : List (List Bytes) → Except Nat (List (List Text))
  | [] => .ok []
  | fields :: rest =>
    match cells? fields with
    | none => .error index
    | some row => (rows (index + 1) rest).map (row :: ·)

/-- The table of an export, none if it has no record. The error is the number of the record that
cannot be read; the header record is number zero. -/
def read (bytes : Bytes) : Except Nat (Option Table) := do
  match ← rows 0 (Csv.readRecords bytes) with
  | [] => return none
  | headers :: rows => return some ⟨headers, rows⟩

end ExportTable
end InstanceCatalog
