import InstanceCatalog.Proofs.Files.Disk
import InstanceCatalog.Vendor.Shape

namespace InstanceCatalog

namespace ExportTable

theorem cells?_eq_none_iff {fields : List Bytes} :
    cells? fields = none ↔ ∃ field ∈ fields, Utf8.decode field = none := by
  induction fields with
  | nil => simp [cells?]
  | cons field rest ih =>
    have hc : (∃ f ∈ field :: rest, Utf8.decode f = none) ↔
        Utf8.decode field = none ∨ cells? rest = none := by
      rw [ih]
      simp
    rw [hc]
    unfold cells?
    rw [List.mapM_cons]
    cases hd : Utf8.decode field with
    | none => simp
    | some text =>
      cases List.mapM (fun field => (Utf8.decode field).map Text.trim) rest with
      | none => simp
      | some cells => simp

theorem exists_rows_eq_error_iff {records : List (List Bytes)} (index : Nat) :
    (∃ bad, rows index records = .error bad) ↔
      ∃ record ∈ records, ∃ field ∈ record, Utf8.decode field = none := by
  induction records generalizing index with
  | nil => simp [rows]
  | cons record rest ih =>
    have hc : (∃ r ∈ record :: rest, ∃ field ∈ r, Utf8.decode field = none) ↔
        cells? record = none ∨ ∃ bad, rows (index + 1) rest = .error bad := by
      rw [cells?_eq_none_iff, ih (index + 1)]
      simp
    rw [hc, rows]
    cases cells? record with
    | none => simp
    | some row =>
      cases rows (index + 1) rest with
      | error bad => simp [Except.map]
      | ok table => simp [Except.map]

theorem exists_read_eq_error_iff {bytes : Bytes} :
    (∃ bad, read bytes = .error bad) ↔
      ∃ record ∈ Csv.readRecords bytes, ∃ field ∈ record, Utf8.decode field = none := by
  rw [← exists_rows_eq_error_iff 0, read]
  rcases rows 0 (Csv.readRecords bytes) with bad | _ | ⟨headers, table⟩
  · simp [bind, Except.bind]
  · simp [bind, Except.bind, pure, Except.pure]
  · simp [bind, Except.bind, pure, Except.pure]

end ExportTable

namespace VendorSchema

def declared (schema : VendorSchema) : List Text :=
  [schema.name, schema.memory, schema.vcpu, schema.network] ++ schema.tier.toList

inductive Unusable (disk : Disk) (path : Text) (schema : VendorSchema) : Prop
  | missing : (∀ bytes, disk.openFile path ≠ .ok (.ok bytes)) → Unusable disk path schema
  | notText {bytes record field} : disk.openFile path = .ok (.ok bytes) →
    record ∈ Csv.readRecords bytes → field ∈ record → Utf8.decode field = none →
    Unusable disk path schema
  | lacksColumn {bytes table column} : disk.openFile path = .ok (.ok bytes) →
    ExportTable.read bytes = .ok (some table) → column ∈ schema.declared →
    column ∉ table.headers → Unusable disk path schema

theorem column_of_mem {schema : VendorSchema} {headers : List Text} {header : Text}
    (h : header ∈ headers) : schema.column headers header = .ok (headers.idxOf header) := by
  have hf : headers.findIdx? (· == header) = some (headers.idxOf header) :=
    List.findIdx?_eq_some_iff_findIdx_eq.mpr ⟨List.idxOf_lt_length_iff.mpr h, rfl⟩
  rw [column, hf]

theorem column_of_notMem {schema : VendorSchema} {headers : List Text} {header : Text}
    (h : header ∉ headers) :
    schema.column headers header = .error (.missingColumn schema.vendor header headers) := by
  have hf : headers.findIdx? (· == header) = none := by
    rw [List.findIdx?_eq_none_iff]
    intro other ho
    rw [beq_eq_false_iff_ne]
    rintro rfl
    exact h ho
  rw [column, hf]

/-- The first of some headers that is missing stops a schema; without one it goes on. -/
def unlessMissing {α : Type} (schema : VendorSchema) (headers wanted : List Text) (found : α) :
    Except Failure α :=
  match wanted.find? (· ∉ headers) with
  | some header => .error (.missingColumn schema.vendor header headers)
  | none => .ok found

/-- A column is looked for, and then those of other headers. -/
theorem column_bind {α : Type} {schema : VendorSchema} {headers wanted : List Text} {header : Text}
    {rest : Nat → Except Failure α} {found : α}
    (h : rest (headers.idxOf header) = schema.unlessMissing headers wanted found) :
    (schema.column headers header >>= rest) =
      schema.unlessMissing headers (header :: wanted) found := by
  by_cases hm : header ∈ headers
  · have hf : (header :: wanted).find? (· ∉ headers) = wanted.find? (· ∉ headers) :=
      List.find?_cons_of_neg (by simp [hm])
    rw [column_of_mem hm, unlessMissing, hf]
    exact h
  · have hf : (header :: wanted).find? (· ∉ headers) = some header :=
      List.find?_cons_of_pos (by simp [hm])
    rw [column_of_notMem hm, unlessMissing, hf]
    rfl

def firstColumns (schema : VendorSchema) (headers : List Text) : SchemaColumns :=
  ⟨headers.idxOf schema.name, headers.idxOf schema.memory, headers.idxOf schema.vcpu,
    headers.idxOf schema.network, schema.tier.map headers.idxOf⟩

/-- The declared headers are looked for in turn. -/
theorem columns_eq (schema : VendorSchema) (headers : List Text) :
    schema.columns headers =
      schema.unlessMissing headers schema.declared (schema.firstColumns headers) := by
  rw [columns]
  refine column_bind (column_bind (column_bind (column_bind ?_)))
  rw [firstColumns]
  cases schema.tier with
  | none => rfl
  | some header =>
    show (some <$> schema.column headers header) >>= _ = _
    rw [bind_map_left]
    exact column_bind rfl

theorem exists_columns_eq_error_iff {schema : VendorSchema} {headers : List Text} :
    (∃ failure, schema.columns headers = .error failure) ↔
      ∃ column ∈ schema.declared, column ∉ headers := by
  rw [columns_eq, unlessMissing]
  cases hf : schema.declared.find? (· ∉ headers) with
  | none => simpa using hf
  | some column =>
    have hc := List.find?_some hf
    exact ⟨fun _ => ⟨column, List.mem_of_find?_eq_some hf, by simpa using hc⟩, fun _ => ⟨_, rfl⟩⟩

theorem shapeFile_access (schema : VendorSchema) (path : Text) (disk : Disk) :
    schema.shapeFile Disk.access path disk =
      (match disk.openFile path with
        | .error cause => .error (.opening path cause)
        | .ok (.error _) => .error (.reading path (.badRecord 0))
        | .ok (.ok bytes) => schema.shapeExport path bytes, disk) := by
  rw [shapeFile, World.bind_apply, Disk.access_openFile]
  rcases disk.openFile path with cause | _ | bytes
  · rfl
  · rfl
  · rfl

theorem exists_shapeExport_eq_error_iff {schema : VendorSchema} {path : Text} {bytes : Bytes} :
    (∃ failure, schema.shapeExport path bytes = .error failure) ↔
      (∃ bad, ExportTable.read bytes = .error bad) ∨
        ∃ table, ExportTable.read bytes = .ok (some table) ∧
          ∃ column ∈ schema.declared, column ∉ table.headers := by
  rw [shapeExport]
  rcases ExportTable.read bytes with bad | _ | table
  · simp
  · simp
  · have ht : (∃ failure, schema.shapeTable table = .error failure) ↔
        ∃ failure, schema.columns table.headers = .error failure := by
      rw [shapeTable]
      cases schema.columns table.headers with
      | error failure => simp [bind, Except.bind]
      | ok columns => simp [bind, Except.bind, pure, Except.pure]
    simpa [← exists_columns_eq_error_iff] using ht

/-- Shaping fails on the exports that are unusable and on no others. -/
theorem exists_shapeFile_eq_error_iff {schema : VendorSchema} {path : Text} {disk : Disk} :
    (∃ failure, (schema.shapeFile Disk.access path disk).1 = .error failure) ↔
      Unusable disk path schema := by
  rw [shapeFile_access]
  constructor
  · intro h
    rcases ho : disk.openFile path with cause | cause | bytes
    · exact .missing fun bytes hb => nomatch ho.symm.trans hb
    · exact .missing fun bytes hb => nomatch ho.symm.trans hb
    · simp only [ho] at h
      rcases exists_shapeExport_eq_error_iff.mp h with hr | ⟨table, hr, column, hd, hm⟩
      · obtain ⟨record, hr, field, hf, hn⟩ := ExportTable.exists_read_eq_error_iff.mp hr
        exact .notText ho hr hf hn
      · exact .lacksColumn ho hr hd hm
  · intro h
    cases h with
    | missing hn =>
      rcases ho : disk.openFile path with cause | cause | bytes
      · exact ⟨_, rfl⟩
      · exact ⟨_, rfl⟩
      · exact absurd ho (hn bytes)
    | @notText bytes record field ho hr hf hn =>
      simp only [ho]
      exact exists_shapeExport_eq_error_iff.mpr
        (.inl (ExportTable.exists_read_eq_error_iff.mpr ⟨record, hr, field, hf, hn⟩))
    | @lacksColumn bytes table column ho hr hd hm =>
      simp only [ho]
      exact exists_shapeExport_eq_error_iff.mpr (.inr ⟨table, hr, column, hd, hm⟩)

end VendorSchema
end InstanceCatalog
