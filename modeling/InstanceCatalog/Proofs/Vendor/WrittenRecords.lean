import InstanceCatalog.Vendor.Shape
import InstanceCatalog.Proofs.Number.Amount
import InstanceCatalog.Proofs.Sink.Batches
import InstanceCatalog.Proofs.Text.Utf8

namespace InstanceCatalog

namespace ExportTable

theorem cells?_encode {row : List Text} (h : ∀ cell ∈ row, Text.trim cell = cell) :
    cells? (row.map Utf8.encode) = some row := by
  induction row with
  | nil => rfl
  | cons cell rest ih =>
    have hr := ih fun c hc => h c (List.mem_cons_of_mem _ hc)
    rw [cells?] at hr ⊢
    rw [List.map_cons, List.mapM_cons, hr, Utf8.decode_encode, Option.map_some,
      h cell List.mem_cons_self]
    rfl

theorem rows_encode (index : Nat) {table : List (List Text)}
    (h : ∀ row ∈ table, ∀ cell ∈ row, Text.trim cell = cell) :
    rows index (table.map (·.map Utf8.encode)) = .ok table := by
  induction table generalizing index with
  | nil => rfl
  | cons row rest ih =>
    have hr := ih (index + 1) fun r hr => h r (List.mem_cons_of_mem _ hr)
    simp only [List.map_cons, rows, cells?_encode (h row List.mem_cons_self), hr]
    rfl

end ExportTable

namespace Sink

theorem trim_recordFields {r : Record} (h : Text.trim r.size = r.size) :
    ∀ cell ∈ recordFields r, Text.trim cell = cell := by
  have hn : ∀ n, Text.trim (Text.ofNat n) = Text.ofNat n := fun n =>
    Text.trim_of_digits fun _ => Text.isDigit_of_mem_ofNat
  simp [recordFields, h, hn]

theorem read_encoding {records : List Record} (h : ∀ r ∈ records, Text.trim r.size = r.size) :
    ExportTable.read (encoding records) = .ok (some ⟨header, records.map recordFields⟩) := by
  have hc : ∀ row ∈ header :: records.map recordFields, ∀ cell ∈ row, Text.trim cell = cell := by
    intro row hr
    rcases List.mem_cons.mp hr with rfl | hr
    · decide
    · obtain ⟨r, hm, rfl⟩ := List.mem_map.mp hr
      exact trim_recordFields (h r hm)
  rw [ExportTable.read, readRecords_encoding, ExportTable.rows_encode 0 hc]
  rfl

end Sink

structure ShapedFrom (r : Record) (s : ShapedRecord) : Prop where
  name : s.name = quoteName r.size
  memory : s.memory.Nearest r.memory
  vcpu : s.vcpu = Text.decimalValue ((Text.ofNat r.vcpu).take 4)
  vcpu_of_lt : r.vcpu < 10000 → s.vcpu = r.vcpu
  network_of_eq_zero : r.network = 0 → s.network = 1000
  network_of_pos : 1 ≤ r.network → r.network ≤ 2 ^ 53 → s.network = r.network

namespace VendorSchema

def sinkColumns : SchemaColumns := ⟨0, 2, 1, 3, none⟩

theorem columns_azure : azure.columns Sink.header = .ok sinkColumns := rfl

theorem bandwidth_azure {r : Record} (h : r.network ≤ 2 ^ 53) :
    azure.bandwidth sinkColumns (Sink.recordFields r) = r.network := by
  have hj : Amount.joinedCount (Text.ofNat r.network) = r.network := Amount.joinedCount_ofNat h
  have hg : r.network ≤ greatestCount := h.trans (by decide)
  change min (Amount.joinedCount (Text.ofNat r.network) * 1) greatestCount = r.network
  rw [hj, Nat.mul_one, Nat.min_eq_left hg]

theorem shape_azure {r : Record} (h : r.memory ≤ greatestCount) :
    ShapedFrom r (azure.shape sinkColumns (Sink.recordFields r)) := by
  have hv : (azure.shape sinkColumns (Sink.recordFields r)).vcpu =
      Text.decimalValue ((Text.ofNat r.vcpu).take 4) :=
    Amount.joinedCount_take_ofNat r.vcpu (by decide) (by decide)
  have hn : (azure.shape sinkColumns (Sink.recordFields r)).network =
      if azure.bandwidth sinkColumns (Sink.recordFields r) = 0 then 1000
      else azure.bandwidth sinkColumns (Sink.recordFields r) := rfl
  -- all cells are plain digits, so each is read as the number it was written for
  refine ⟨rfl, ?_, hv, ?_, ?_, ?_⟩
  · have hm : (azure.shape sinkColumns (Sink.recordFields r)).memory =
        (Amount.joined (Text.ofNat r.memory)).getD .zero := rfl
    rw [hm, Amount.joined_ofNat h]
    exact Binary64.ofNat_nearest h
  · intro hl
    rw [hv, List.take_of_length_le (Text.length_ofNat_le (by decide) hl), Text.decimalValue_ofNat]
  · intro hz
    rw [hn, bandwidth_azure (by omega), if_pos hz]
  · intro hp hl
    rw [hn, bandwidth_azure hl, if_neg (by omega)]

theorem shapeTable_azure {records : List Record} (h : ∀ r ∈ records, r.memory ≤ greatestCount) :
    ∃ shaped, azure.shapeTable ⟨Sink.header, records.map Sink.recordFields⟩ = .ok shaped ∧
      List.Forall₂ ShapedFrom records shaped := by
  refine ⟨(records.map Sink.recordFields).map (azure.shape sinkColumns), ?_, ?_⟩
  · rw [shapeTable, columns_azure]
    rfl
  · rw [List.map_map, List.forall₂_map_right_iff, List.forall₂_same]
    exact fun r hr => shape_azure (h r hr)

end VendorSchema

/-- Records with trimmed sizes, written in any batches. The bytes read as the table of the records,
whatever characters the sizes hold, and the schema of the sink's columns shapes every row from its
record. -/
theorem shaped_of_written (batches : List (List Record))
    (hs : ∀ r ∈ batches.flatten, Text.trim r.size = r.size)
    (hm : ∀ r ∈ batches.flatten, r.memory ≤ greatestCount) :
    ((Sink.create (.empty none)).writeBatches batches).finish?.isSome = true ∧
    ∀ limit bytes, ((Sink.create (.empty limit)).writeBatches batches).finish? = some bytes →
      ∃ table shaped, ExportTable.read bytes = .ok (some table) ∧
        table.headers =
          ["Size".toList, "vC".toList, "Memory".toList, "Network Bandwidth".toList] ∧
        table.rows = batches.flatten.map (fun r =>
          [r.size, Text.ofNat r.vcpu, Text.ofNat r.memory, Text.ofNat r.network]) ∧
        VendorSchema.azure.shapeTable table = .ok shaped ∧
        List.Forall₂ ShapedFrom batches.flatten shaped := by
  refine ⟨by rw [Sink.finish?_writeBatches]; rfl, ?_⟩
  intro limit bytes hb
  obtain ⟨shaped, ht, hf⟩ := VendorSchema.shapeTable_azure hm
  rw [Sink.eq_encoding_of_finish? hb]
  exact ⟨_, shaped, Sink.read_encoding hs, rfl, rfl, ht, hf⟩

theorem shaped_of_written_line_break :
    ∃ bytes table shaped,
      ((Sink.create (.empty none)).writeBatches
        [[⟨"a,\"b\"\r\nc".toList, 12345, 8, 0⟩], [], [⟨"d".toList, 4, 16, 3000⟩]]).finish? =
          some bytes ∧
      ExportTable.read bytes = .ok (some table) ∧
      VendorSchema.azure.shapeTable table = .ok shaped ∧
      List.Forall₂ ShapedFrom
        [⟨"a,\"b\"\r\nc".toList, 12345, 8, 0⟩, ⟨"d".toList, 4, 16, 3000⟩] shaped := by
  obtain ⟨hf, hr⟩ := shaped_of_written
    [[⟨"a,\"b\"\r\nc".toList, 12345, 8, 0⟩], [], [⟨"d".toList, 4, 16, 3000⟩]]
    (by decide) (by decide)
  obtain ⟨bytes, hb⟩ := Option.isSome_iff_exists.mp hf
  obtain ⟨table, shaped, ht, -, -, hs, hl⟩ := hr none bytes hb
  exact ⟨bytes, table, shaped, hb, ht, hs, hl⟩

end InstanceCatalog
