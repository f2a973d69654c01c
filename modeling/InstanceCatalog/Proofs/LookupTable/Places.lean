import InstanceCatalog.LookupTable
import InstanceCatalog.Proofs.Files.Places
import Mathlib.Data.List.Nodup

namespace InstanceCatalog
namespace LookupTable

theorem isFileName_export {vendor : Text} (h : '/' ∉ Text.lowercase vendor) :
    Path.IsFileName (Text.lowercase vendor ++ ".csv".toList) := .of_ending h (by decide) (by decide)

theorem isFileName_table {vendor : Text} (h : '/' ∉ Text.lowercase vendor) :
    Path.IsFileName (Text.lowercase vendor ++ "_instances.cpp".toList) :=
  .of_ending h (by decide) (by decide)

/-- No table is an export. -/
theorem export_ne_table (a b : Text) : a ++ ".csv".toList ≠ b ++ "_instances.cpp".toList := by
  intro h
  have hl := congrArg List.getLast? h
  simp at hl

structure NamesApart (schemas : List VendorSchema) : Prop where
  nodup : (schemas.map fun schema => Text.lowercase schema.vendor).Nodup
  noSlash : ∀ schema ∈ schemas, '/' ∉ Text.lowercase schema.vendor

def outputPaths (output : Text) (schemas : List VendorSchema) : List Text :=
  schemas.map fun schema => outputPath output schema.vendor

def tablePlace (output : Text) (schema : VendorSchema) : List Text :=
  Disk.placeOf (outputPath output schema.vendor)

/-- No other schema has its table in the same file. -/
def HasOwnFile (output : Text) (schemas : List VendorSchema) (schema : VendorSchema) : Prop :=
  ∀ other ∈ schemas, tablePlace output other = tablePlace output schema → other = schema

instance (output : Text) (schemas : List VendorSchema) (schema : VendorSchema) :
    Decidable (HasOwnFile output schemas schema) :=
  inferInstanceAs (Decidable (∀ other ∈ schemas, _ → _))

theorem exists_tablePlace (output : Text) (schema : VendorSchema) :
    ∃ above last, tablePlace output schema = above ++ [last ++ "_instances.cpp".toList] :=
  Disk.exists_placeOf_join output _ (by decide) (by decide)

/-- Below one directory tables are told apart by the vendors' names in lower case. -/
theorem tablePlace_eq_iff (output : Text) {a b : VendorSchema}
    (ha : '/' ∉ Text.lowercase a.vendor) (hb : '/' ∉ Text.lowercase b.vendor) :
    tablePlace output a = tablePlace output b ↔
      Text.lowercase a.vendor = Text.lowercase b.vendor := by
  rw [tablePlace, tablePlace, outputPath, outputPath, Disk.placeOf_join (isFileName_table ha),
    Disk.placeOf_join (isFileName_table hb), List.append_cancel_left_eq, List.cons.injEq,
    and_iff_left rfl, List.append_cancel_right_eq]

namespace NamesApart

variable {schemas : List VendorSchema}

theorem eq_of_lowercase (h : NamesApart schemas) {a b : VendorSchema} (ha : a ∈ schemas)
    (hb : b ∈ schemas) (he : Text.lowercase a.vendor = Text.lowercase b.vendor) : a = b :=
  List.inj_on_of_nodup_map h.nodup ha hb he

/-- Tables of one name are those of one schema. -/
theorem eq_of_place (h : NamesApart schemas) {a b : VendorSchema} {folder folder' : List Text}
    (ha : a ∈ schemas) (hb : b ∈ schemas)
    (he : folder ++ [Text.lowercase a.vendor ++ "_instances.cpp".toList] =
      folder' ++ [Text.lowercase b.vendor ++ "_instances.cpp".toList]) : a = b := by
  obtain ⟨-, hn⟩ := List.append_inj' he rfl
  exact h.eq_of_lowercase ha hb (List.append_cancel_right (List.cons.inj hn).1)

theorem hasOwnFile (h : NamesApart schemas) (output : Text) {schema : VendorSchema}
    (hm : schema ∈ schemas) : HasOwnFile output schemas schema := by
  intro other ho he
  rw [tablePlace_eq_iff output (h.noSlash other ho) (h.noSlash schema hm)] at he
  exact h.eq_of_lowercase ho hm he

end NamesApart

end LookupTable
end InstanceCatalog
