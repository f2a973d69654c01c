import InstanceCatalog.Failure

namespace InstanceCatalog

structure VendorSchema where
  vendor : Text
  name : Text
  memory : Text
  vcpu : Text
  network : Text
  /-- A column of burst bandwidth; the larger of it and the network column counts. -/
  tier : Option Text
  /-- What one unit of the network column is in Mbit/s. -/
  networkScale : Nat
deriving DecidableEq, Repr

structure SchemaColumns where
  name : Nat
  memory : Nat
  vcpu : Nat
  network : Nat
  tier : Option Nat
deriving DecidableEq, Repr

namespace VendorSchema

/-- The scale of a schema that names none: gigabits. -/
def standardScale : Nat := 1000

def aws : VendorSchema where
  vendor := "AWS".toList
  name := "API Name".toList
  memory := "Instance Memory".toList
  vcpu := "vCPUs".toList
  network := "Network Performance".toList
  tier := none
  networkScale := 1000

/-- The columns that `Sink` writes; its bandwidths are in Mbit/s. -/
def azure : VendorSchema where
  vendor := "Azure".toList
  name := "Size".toList
  memory := "Memory".toList
  vcpu := "vC".toList
  network := "Network Bandwidth".toList
  tier := none
  networkScale := 1

def gcp : VendorSchema where
  vendor := "GCP".toList
  name := "name".toList
  memory := "memoryGiB".toList
  vcpu := "vCpus".toList
  network := "bandwidth".toList
  tier := some "tier1".toList
  networkScale := 1000

def builtIn : List VendorSchema := [aws, azure, gcp]

/-- The first column with exactly this header. -/
def column (schema : VendorSchema) (headers : List Text) (header : Text) : Except Failure Nat :=
  match headers.findIdx? (· == header) with
  | some index => .ok index
  | none => .error (.missingColumn schema.vendor header headers)

def columns (schema : VendorSchema) (headers : List Text) : Except Failure SchemaColumns := do
  let name ← schema.column headers schema.name
  let memory ← schema.column headers schema.memory
  let vcpu ← schema.column headers schema.vcpu
  let network ← schema.column headers schema.network
  let tier ← match schema.tier with
    | none => pure none
    | some header => some <$> schema.column headers header
  return ⟨name, memory, vcpu, network, tier⟩

end VendorSchema
end InstanceCatalog
