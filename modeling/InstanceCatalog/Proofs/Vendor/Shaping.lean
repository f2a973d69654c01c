import InstanceCatalog.Proofs.Number.Amount
import InstanceCatalog.Proofs.Vendor.Unusable
import Mathlib.Data.List.Basic
import Mathlib.Data.List.Forall2
import Mathlib.Data.List.Nodup

namespace InstanceCatalog

theorem Amount.joinedCount_le (text : Text) : joinedCount text ≤ greatestCount := by
  unfold joinedCount
  split
  · exact Binary64.truncate_le _
  · exact Nat.zero_le _

namespace Table

/-- The columns of a table in another order, by their indexes. What a row lacks is an empty cell. -/
def reorderPadded (table : Table) (order : List Nat) : Table :=
  ⟨order.map (table.headers.getD · []), table.rows.map fun row => order.map (row.getD · [])⟩

end Table

namespace VendorSchema

/-- What stands in a row under the first column of a header. A missing cell is an empty one. -/
def under (headers row : List Text) (header : Text) : Text := cell row (headers.idxOf header)

variable {schema : VendorSchema} {headers row : List Text} {reads : Text → Text}

def tierCount (schema : VendorSchema) (reads : Text → Text) : Nat :=
  match schema.tier with
  | none => 0
  | some header => Amount.joinedCount (reads header)

/-- The scaled network column, cut off at the greatest count, or the tier column if that is more. -/
def reported (schema : VendorSchema) (reads : Text → Text) : Nat :=
  max (min (Amount.joinedCount (reads schema.network) * schema.networkScale) (2 ^ 64 - 1))
    (schema.tierCount reads)

structure ShapesTo (schema : VendorSchema) (reads : Text → Text) (record : ShapedRecord) :
    Prop where
  name : record.name = quoteName (reads schema.name)
  memory : record.memory = (Amount.joined (reads schema.memory)).getD .zero
  vcpu : record.vcpu = Amount.joinedCount ((reads schema.vcpu).take 4)
  network : record.network = if schema.reported reads = 0 then 1000 else schema.reported reads
  network_pos : 1 ≤ record.network
  tier_le_network : schema.tierCount reads ≤ record.network
  network_le : record.network ≤ 2 ^ 64 - 1
  reported_of_digits : reads schema.network ≠ [] → (∀ c ∈ reads schema.network, c.isDigit = true) →
    Text.decimalValue (reads schema.network) ≤ 2 ^ 53 →
    schema.reported reads =
      max (min (Text.decimalValue (reads schema.network) * schema.networkScale) (2 ^ 64 - 1))
        (schema.tierCount reads)

theorem bandwidth_eq_reported :
    schema.bandwidth (schema.firstColumns headers) row = schema.reported (under headers row) := by
  rw [bandwidth, reported, tierCount, firstColumns]
  cases schema.tier with
  | none => exact (Nat.max_zero _).symm
  | some header => rfl

theorem reported_le : schema.reported reads ≤ 2 ^ 64 - 1 := by
  apply Nat.max_le.mpr ⟨Nat.min_le_right _ _, ?_⟩
  rw [tierCount]
  split
  · exact Nat.zero_le _
  · exact Amount.joinedCount_le _

theorem shape_shapesTo :
    schema.ShapesTo (under headers row) (schema.shape (schema.firstColumns headers) row) := by
  have hn : (schema.shape (schema.firstColumns headers) row).network =
      if schema.reported (under headers row) = 0 then 1000
      else schema.reported (under headers row) := by
    rw [← bandwidth_eq_reported]
    rfl
  have ht : schema.tierCount (under headers row) ≤ schema.reported (under headers row) :=
    Nat.le_max_right _ _
  have hl : schema.reported (under headers row) ≤ 2 ^ 64 - 1 := reported_le
  refine ⟨rfl, rfl, rfl, hn, ?_, ?_, ?_, ?_⟩
  · rw [hn]
    split <;> omega
  · rw [hn]
    split <;> omega
  · rw [hn]
    split <;> omega
  · intro he hd hv
    rw [reported, Amount.joinedCount_of_digits he hd hv]

/-- Rows that read alike under the declared headers are shaped alike. -/
theorem shape_congr {others other : List Text}
    (h : ∀ column ∈ schema.declared, under headers row column = under others other column) :
    schema.shape (schema.firstColumns headers) row =
      schema.shape (schema.firstColumns others) other := by
  have hd : schema.declared =
      [schema.name, schema.memory, schema.vcpu, schema.network] ++ schema.tier.toList := rfl
  have hn := h schema.name (by simp [hd])
  have hm := h schema.memory (by simp [hd])
  have hv := h schema.vcpu (by simp [hd])
  have hw := h schema.network (by simp [hd])
  have ht : schema.tierCount (under headers row) = schema.tierCount (under others other) := by
    rw [tierCount, tierCount]
    cases he : schema.tier with
    | none => rfl
    | some header => exact congrArg Amount.joinedCount (h header (by simp [hd, he]))
  have hr : schema.reported (under headers row) = schema.reported (under others other) := by
    rw [reported, reported, hw, ht]
  rw [← bandwidth_eq_reported, ← bandwidth_eq_reported] at hr
  simp only [under] at hn hm hv
  simp only [shape, hr]
  simp only [firstColumns, hn, hm, hv]

theorem shapeTable_eq (schema : VendorSchema) (table : Table) :
    schema.shapeTable table =
      schema.unlessMissing table.headers schema.declared
        (table.rows.map (schema.shape (schema.firstColumns table.headers))) := by
  rw [shapeTable, columns_eq, unlessMissing, unlessMissing]
  cases schema.declared.find? (· ∉ table.headers) with
  | none => rfl
  | some header => rfl

variable {table : Table} {records : List ShapedRecord}

theorem shapeTable_eq_ok_iff :
    schema.shapeTable table = .ok records ↔
      (∀ column ∈ schema.declared, column ∈ table.headers) ∧
        records = table.rows.map (schema.shape (schema.firstColumns table.headers)) := by
  rw [shapeTable_eq, unlessMissing]
  cases hf : schema.declared.find? (· ∉ table.headers) with
  | none =>
    have hf : ∀ column ∈ schema.declared, column ∈ table.headers := by simpa using hf
    simp only [Except.ok.injEq, eq_comm (a := records)]
    exact (and_iff_right hf).symm
  | some column =>
    have hc : column ∉ table.headers := by simpa using List.find?_some hf
    have hn : ¬∀ column ∈ schema.declared, column ∈ table.headers :=
      fun h => hc (h column (List.mem_of_find?_eq_some hf))
    simp [hn]

theorem shapeTable_eq_error {failure : Failure} (h : schema.shapeTable table = .error failure) :
    ∃ before column after, schema.declared = before ++ column :: after ∧
      (∀ earlier ∈ before, earlier ∈ table.headers) ∧ column ∉ table.headers ∧
      failure = .missingColumn schema.vendor column table.headers := by
  rw [shapeTable_eq, unlessMissing] at h
  split at h
  · next column hf =>
    obtain ⟨hc, before, after, hd, hb⟩ := List.find?_eq_some_iff_append.mp hf
    refine ⟨before, column, after, hd, ?_, by simpa using hc, (Except.error.inj h).symm⟩
    intro earlier he
    simpa using hb earlier he
  · cases h

/-- A table with the same declared columns, under which each of its rows reads as the row in the
place of it, is shaped alike. -/
theorem shapeTable_congr {other : Table} (h : schema.shapeTable table = .ok records)
    (hc : ∀ column ∈ schema.declared, column ∈ other.headers)
    (hr : List.Forall₂ (fun row row' => ∀ column ∈ schema.declared,
      under table.headers row column = under other.headers row' column) table.rows other.rows) :
    schema.shapeTable other = .ok records := by
  obtain ⟨-, rfl⟩ := shapeTable_eq_ok_iff.mp h
  refine shapeTable_eq_ok_iff.mpr ⟨hc, ?_⟩
  rw [← List.forall₂_eq_eq_eq, List.forall₂_map_left_iff, List.forall₂_map_right_iff]
  exact hr.imp fun _ _ => shape_congr

section OneColumn
variable {before after : List Text} {header column : Text} {index : Nat}

theorem cell_insertIdx (row : List Text) (index : Nat) (added : Text) (i : Nat) :
    cell (row.insertIdx index added) (if i < index then i else i + 1) = cell row i := by
  simp only [cell, List.getD_eq_getElem?_getD, List.getElem?_insertIdx]
  split
  · rfl
  · next h =>
    have hl : ¬i + 1 < index := by omega
    have hn : ¬i + 1 = index := by omega
    simp [hl, hn]

theorem cell_eraseIdx (row : List Text) (index : Nat) (i : Nat) :
    cell (row.eraseIdx index) i = cell row (if i < index then i else i + 1) := by
  simp only [cell, List.getD_eq_getElem?_getD, List.getElem?_eraseIdx]
  split
  · rfl
  · rfl

/-- A column that is not the first of its header leaves the first columns of all headers, but for
their places. -/
theorem idxOf_oneMore (hb : header = column → column ∈ before) :
    (before ++ header :: after).idxOf column =
      if (before ++ after).idxOf column < before.length then (before ++ after).idxOf column
      else (before ++ after).idxOf column + 1 := by
  by_cases hm : column ∈ before
  · have hl := List.idxOf_lt_length_iff.mpr hm
    rw [List.idxOf_append_of_mem hm, List.idxOf_append_of_mem hm, if_pos hl]
  · have hn : header ≠ column := fun he => hm (hb he)
    rw [List.idxOf_append_of_notMem hm, List.idxOf_append_of_notMem hm, List.idxOf_cons_ne _ hn,
      if_neg (by omega)]
    omega

theorem under_oneMore {row wide : List Text} (hb : header = column → column ∈ before)
    (hr : ∀ i, cell wide (if i < before.length then i else i + 1) = cell row i) :
    under (before ++ header :: after) wide column = under (before ++ after) row column := by
  rw [under, under, idxOf_oneMore hb, hr]

/-- A column is put in that is not the first of a declared header. Rows too short to reach so far
stay as they are. -/
theorem shapeTable_inserted {wider : Table} (h : schema.shapeTable table = .ok records)
    (hh : table.headers = before ++ after) (hb : header ∈ schema.declared → header ∈ before)
    (hw : wider.headers = before ++ header :: after)
    (hr : List.Forall₂ (fun row wide => ∃ added, wide = row.insertIdx before.length added)
      table.rows wider.rows) :
    schema.shapeTable wider = .ok records := by
  obtain ⟨hc, -⟩ := shapeTable_eq_ok_iff.mp h
  refine shapeTable_congr h ?_ (hr.imp ?_)
  · intro column hd
    have hm := hc column hd
    rw [hh] at hm
    rw [hw]
    exact (List.Sublist.append_left (List.sublist_cons_self header after) before).subset hm
  · rintro row - ⟨added, rfl⟩ column hd
    rw [hh, hw]
    refine (under_oneMore ?_ (cell_insertIdx row before.length added)).symm
    rintro rfl
    exact hb hd

/-- A column is taken out that is not the first of a declared header. -/
theorem shapeTable_erased (h : schema.shapeTable table = .ok records)
    (hh : table.headers = before ++ header :: after)
    (hb : header ∈ schema.declared → header ∈ before) :
    schema.shapeTable ⟨before ++ after, table.rows.map (·.eraseIdx before.length)⟩ =
      .ok records := by
  obtain ⟨hc, -⟩ := shapeTable_eq_ok_iff.mp h
  refine shapeTable_congr h ?_ ?_
  · intro column hd
    have hm := hc column hd
    rw [hh, List.mem_append, List.mem_cons] at hm
    rw [List.mem_append]
    rcases hm with hm | rfl | hm
    · exact .inl hm
    · exact .inl (hb hd)
    · exact .inr hm
  · rw [List.forall₂_map_right_iff, List.forall₂_same]
    intro row _ column hd
    rw [hh]
    refine under_oneMore ?_ fun i => (cell_eraseIdx row before.length i).symm
    rintro rfl
    exact hb hd

end OneColumn

section Order
variable {order : List Nat} {column : Text}

def columnsOf (headers : List Text) (column : Text) (order : List Nat) : List Nat :=
  order.filter (headers[·]? = some column)

theorem cell_map_idxOf (f g : Nat → Text) (column : Text) (order : List Nat) :
    cell (order.map g) ((order.map f).idxOf column) =
      match order.find? (f · = column) with
      | some i => g i
      | none => [] := by
  induction order with
  | nil => rfl
  | cons i rest ih =>
    by_cases h : f i = column
    · rw [List.find?_cons_of_pos (by simpa using h), List.map_cons, List.map_cons, h,
        List.idxOf_cons_self]
      rfl
    · rw [List.find?_cons_of_neg (by simpa using h), List.map_cons, List.map_cons,
        List.idxOf_cons_ne _ h, ← ih]
      rfl

/-- Where the columns of a header keep their order, the first of them is still the first. -/
theorem find?_order (hp : order.Perm (List.range headers.length)) (hm : column ∈ headers)
    (ho : (columnsOf headers column order).Pairwise (· < ·)) :
    order.find? (headers.getD · [] = column) = some (headers.idxOf column) := by
  have hl := List.idxOf_lt_length_iff.mpr hm
  have hi : headers[headers.idxOf column]? = some column := by
    rw [List.getElem?_eq_getElem hl, List.getElem_idxOf]
  have hf : order.find? (headers.getD · [] = column) = (columnsOf headers column order).head? := by
    rw [columnsOf, ← List.head?_filter]
    refine congrArg List.head? (List.filter_congr ?_)
    intro i hi
    have hr : i < headers.length := List.mem_range.mp (hp.mem_iff.mp hi)
    simp [List.getElem?_eq_getElem hr]
  have hc : headers.idxOf column ∈ columnsOf headers column order :=
    List.mem_filter.mpr ⟨hp.mem_iff.mpr (List.mem_range.mpr hl), by simpa using hi⟩
  rw [hf]
  cases hs : columnsOf headers column order with
  | nil =>
    rw [hs] at hc
    cases hc
  | cons i rest =>
    rw [hs] at hc ho
    rcases List.mem_cons.mp hc with he | hr
    · rw [he]
      rfl
    · -- a column before the first one would have the header too
      have hlt := (List.pairwise_cons.mp ho).1 _ hr
      have hh := (List.mem_filter.mp (hs ▸ List.mem_cons_self : i ∈ columnsOf headers column order)).2
      have hn := List.not_of_lt_findIdx hlt
      rw [decide_eq_true_iff, List.getElem?_eq_getElem (hlt.trans hl)] at hh
      rw [Option.some.inj hh, beq_self_eq_true] at hn
      cases hn

theorem under_reorderPadded (hp : order.Perm (List.range headers.length)) (hm : column ∈ headers)
    (ho : (columnsOf headers column order).Pairwise (· < ·)) :
    under (order.map (headers.getD · [])) (order.map (row.getD · [])) column =
      under headers row column := by
  rw [under, cell_map_idxOf, find?_order hp hm ho]
  rfl

/-- The columns change places, and only those of one declared header keep their order. -/
theorem shapeTable_reorderPadded (h : schema.shapeTable table = .ok records)
    (hp : order.Perm (List.range table.headers.length))
    (ho : ∀ column ∈ schema.declared, (columnsOf table.headers column order).Pairwise (· < ·)) :
    schema.shapeTable (table.reorderPadded order) = .ok records := by
  obtain ⟨hc, -⟩ := shapeTable_eq_ok_iff.mp h
  apply shapeTable_congr h
  · intro column hd
    have hf := find?_order hp (hc column hd) (ho column hd)
    have hs : table.headers.getD (table.headers.idxOf column) [] = column := by
      simpa using List.find?_some hf
    exact List.mem_map.mpr ⟨_, List.mem_of_find?_eq_some hf, hs⟩
  · rw [Table.reorderPadded, List.forall₂_map_right_iff, List.forall₂_same]
    intro row _ column hd
    exact (under_reorderPadded hp (hc column hd) (ho column hd)).symm

/-- A header that stands there once has one column. -/
theorem pairwise_columnsOf (hp : order.Perm (List.range headers.length)) (hn : headers.Nodup)
    (column : Text) : (columnsOf headers column order).Pairwise (· < ·) := by
  have hd : order.Nodup := hp.nodup_iff.mpr List.nodup_range
  have he : ∀ i ∈ columnsOf headers column order, ∀ j ∈ columnsOf headers column order, i = j := by
    intro i hi j hj
    obtain ⟨hio, hi⟩ := List.mem_filter.mp hi
    obtain ⟨-, hj⟩ := List.mem_filter.mp hj
    have hl : i < headers.length := List.mem_range.mp (hp.mem_iff.mp hio)
    rw [decide_eq_true_iff] at hi hj
    exact (List.getElem?_inj hl hn).mp (hi.trans hj.symm)
  exact (hd.filter _).imp_of_mem fun hi hj hne => absurd (he _ hi _ hj) hne

end Order

/-- The records of a table are made row by row, and stay the same whatever becomes of the columns
that are not the first of a declared header. -/
structure ShapedByColumns (schema : VendorSchema) (table : Table) (records : List ShapedRecord) :
    Prop where
  rows : List.Forall₂ (fun row record => schema.ShapesTo (under table.headers row) record)
    table.rows records
  congr : ∀ other : Table, (∀ column ∈ schema.declared, column ∈ other.headers) →
    List.Forall₂ (fun row row' => ∀ column ∈ schema.declared,
      under table.headers row column = under other.headers row' column) table.rows other.rows →
    schema.shapeTable other = .ok records
  inserted : ∀ (wider : Table) (before after : List Text) (header : Text),
    table.headers = before ++ after → (header ∈ schema.declared → header ∈ before) →
    wider.headers = before ++ header :: after →
    List.Forall₂ (fun row wide => ∃ added, wide = row.insertIdx before.length added)
      table.rows wider.rows →
    schema.shapeTable wider = .ok records
  erased : ∀ (before after : List Text) (header : Text),
    table.headers = before ++ header :: after → (header ∈ schema.declared → header ∈ before) →
    schema.shapeTable ⟨before ++ after, table.rows.map (·.eraseIdx before.length)⟩ = .ok records
  reordered : ∀ order : List Nat, order.Perm (List.range table.headers.length) →
    (∀ column ∈ schema.declared, (columnsOf table.headers column order).Pairwise (· < ·)) →
    schema.shapeTable (table.reorderPadded order) = .ok records
  permuted : ∀ order : List Nat, order.Perm (List.range table.headers.length) →
    table.headers.Nodup → schema.shapeTable (table.reorderPadded order) = .ok records

/-- A table is shaped where all declared columns are there, and otherwise the first that is missing
is named. The records depend on what stands under the declared columns only. -/
theorem shapeTable_by_columns (schema : VendorSchema) (table : Table) :
    ((∃ records, schema.shapeTable table = .ok records) ↔
      ∀ column ∈ schema.declared, column ∈ table.headers) ∧
    (∀ failure, schema.shapeTable table = .error failure →
      ∃ before column after, schema.declared = before ++ column :: after ∧
        (∀ earlier ∈ before, earlier ∈ table.headers) ∧ column ∉ table.headers ∧
        failure = .missingColumn schema.vendor column table.headers ∧
        failure.message = schema.vendor ++ ": column `".toList ++ column ++
          "` not found in ".toList ++ Text.quotedList table.headers) ∧
    ∀ records, schema.shapeTable table = .ok records → schema.ShapedByColumns table records := by
  refine ⟨?_, ?_, ?_⟩
  · simp [shapeTable_eq_ok_iff]
  · intro failure h
    obtain ⟨before, column, after, hd, hb, hc, rfl⟩ := shapeTable_eq_error h
    exact ⟨before, column, after, hd, hb, hc, rfl, rfl⟩
  · intro records h
    refine ⟨?_, fun _ hc hr => shapeTable_congr h hc hr,
      fun _ _ _ _ hh hb hw hr => shapeTable_inserted h hh hb hw hr,
      fun _ _ _ hh hb => shapeTable_erased h hh hb, fun _ hp ho => shapeTable_reorderPadded h hp ho,
      fun _ hp hn => shapeTable_reorderPadded h hp fun column _ => pairwise_columnsOf hp hn column⟩
    obtain ⟨-, rfl⟩ := shapeTable_eq_ok_iff.mp h
    rw [List.forall₂_map_right_iff, List.forall₂_same]
    exact fun _ _ => shape_shapesTo

def raggedExport : Table where
  headers := ["note", "name", "tier1", "vCpus", "memoryGiB", "name", "bandwidth"].map String.toList
  rows := [["x", "n2", "100000", "80 vCPUs", "320", "y", "32"].map String.toList,
    ["", "e2"].map String.toList,
    ["", "c3", "0", "4", "8", "", "99999999999999999999"].map String.toList]

theorem shapeTable_by_columns_ragged :
    (∃ records, gcp.shapeTable raggedExport = .ok records ∧
      List.Forall₂ (fun row record => gcp.ShapesTo (under raggedExport.headers row) record)
        raggedExport.rows records ∧
      records.map (·.network) = [100000, 1000, 2 ^ 64 - 1] ∧
      gcp.shapeTable (raggedExport.reorderPadded [6, 4, 1, 5, 3, 0, 2]) = .ok records) ∧
    ∃ failure column, gcp.shapeTable ⟨["memoryGiB".toList, "name".toList], []⟩ = .error failure ∧
      failure = .missingColumn gcp.vendor column ["memoryGiB".toList, "name".toList] := by
  obtain ⟨hs, -, hok⟩ := shapeTable_by_columns gcp raggedExport
  obtain ⟨records, hr⟩ := hs.mpr (by decide)
  have h := hok records hr
  have hn : (gcp.shapeTable raggedExport).toOption.map (List.map (·.network)) =
      some [100000, 1000, 2 ^ 64 - 1] := by decide +kernel
  rw [hr] at hn
  have ho := h.reordered [6, 4, 1, 5, 3, 0, 2] (by decide) (by decide)
  obtain ⟨-, he, -⟩ := shapeTable_by_columns gcp ⟨["memoryGiB".toList, "name".toList], []⟩
  obtain ⟨_, column, _, -, -, -, hf, -⟩ := he _ rfl
  exact ⟨⟨records, hr, h.rows, Option.some.inj hn, ho⟩, _, column, rfl, hf⟩

end VendorSchema
end InstanceCatalog
