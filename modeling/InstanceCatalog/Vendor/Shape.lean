import InstanceCatalog.Number.Amount
import InstanceCatalog.Table.Export
import InstanceCatalog.Vendor.Schema

namespace InstanceCatalog

structure ShapedRecord where
  /-- In quotes, ready to stand in source text. -/
  name : Text
  memory : Binary64
  vcpu : Nat
  network : Nat
deriving DecidableEq, Repr

/-- A name in quotes; a quote or backslash inside has a backslash before it. -/
def quoteName (name : Text) : Text :=
  '"' :: name.flatMap (fun c => if c = '"' || c = '\\' then ['\\', c] else [c]) ++ ['"']

namespace VendorSchema

/-- The bandwidth of a row that reports zero or nothing readable. -/
def standardNetwork : Nat := 1000

/-- How much of a processor cell counts; what follows may be a footnote. -/
def vcpuWidth : Nat := 4

/-- Cells beyond the end of a short row are empty. -/
def cell (row : List Text) (column : Nat) : Text := row.getD column []

/-- The scaled network column or the tier column, whichever is larger. -/
def bandwidth (schema : VendorSchema) (columns : SchemaColumns) (row : List Text) : Nat :=
  let scaled :=
    min (Amount.joinedCount (cell row columns.network) * schema.networkScale)
      greatestCount
  match columns.tier with
  | none => scaled
  | some column => max scaled (Amount.joinedCount (cell row column))

def shape (schema : VendorSchema) (columns : SchemaColumns) (row : List Text) : ShapedRecord where
  name := quoteName (cell row columns.name)
  memory := (Amount.joined (cell row columns.memory)).getD .zero
  vcpu := Amount.joinedCount ((cell row columns.vcpu).take vcpuWidth)
  network :=
    let network := schema.bandwidth columns row
    if network = 0 then standardNetwork else network

def shapeTable (schema : VendorSchema) (table : Table) : Except Failure (List ShapedRecord) := do
  let columns ← schema.columns table.headers
  return table.rows.map (schema.shape columns)

/-- Shapes the bytes of an export; one without records has no rows. -/
def shapeExport (schema : VendorSchema) (path : Text) (bytes : Bytes) :
    Except Failure (List ShapedRecord) :=
  match ExportTable.read bytes with
  | .error index => .error (.reading path (.badRecord index))
  | .ok none => .ok []
  | .ok (some table) => schema.shapeTable table

def shapeFile [Monad m] (files : FileAccess m) (schema : VendorSchema) (path : Text) :
    m (Except Failure (List ShapedRecord)) := do
  match ← files.openFile path with
  | .error cause => return .error (.opening path cause)
  | .ok (.error _) => return .error (.reading path (.badRecord 0))
  | .ok (.ok bytes) => return schema.shapeExport path bytes

end VendorSchema
end InstanceCatalog
