import InstanceCatalog.Vendor.Schema
import InstanceCatalog.Yaml.Reading

namespace InstanceCatalog
namespace VendorSchema

open Yaml (Node Reading)

/-- One schema; the tier and the scale may be left out. -/
def ofNode (node : Node) : Reading VendorSchema := do
  let fields ← Reading.fields node
  return {
    vendor := ← Reading.field Reading.text fields "vendor"
    name := ← Reading.field Reading.text fields "name"
    memory := ← Reading.field Reading.text fields "memory"
    vcpu := ← Reading.field Reading.text fields "vcpu"
    network := ← Reading.field Reading.text fields "network"
    tier := ← Reading.fieldD (Reading.optional Reading.text) fields "tier" none
    networkScale := ← Reading.fieldD Reading.count fields "network_scale" standardScale }

def ofText? (s : Text) : Option (List VendorSchema) := Yaml.read? (Reading.list ofNode) s

def load [Monad m] (files : FileAccess m) (path : Text) :
    m (Except Failure (List VendorSchema)) := do
  match ← files.readText path with
  | .error cause => return .error (.readingSchemas path cause)
  | .ok text =>
    match ofText? text with
    | some schemas => return .ok schemas
    | none => return .error (.parsingSchemas path)

end VendorSchema
end InstanceCatalog
