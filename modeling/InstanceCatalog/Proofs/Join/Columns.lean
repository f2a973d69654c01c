import InstanceCatalog.Proofs.Join.LiveRow
import Mathlib.Data.List.Forall2

namespace InstanceCatalog

def Field.joined : List Field := [.size, .vcpu, .memory, .network]

/-- The kind of a table is a matter of which of them have a column. -/
theorem TableKind.ofColumns?_congr {columns others : ColumnMap}
    (h : ∀ field ∈ Field.joined, columns.has field = others.has field) :
    ofColumns? columns = ofColumns? others := by
  unfold ofColumns?
  rw [h .size (by decide), h .vcpu (by decide), h .memory (by decide), h .network (by decide)]

namespace LiveRow

variable {header : Text → Header} {headers : List Text} {field : Field} {table other : Table}

theorem isSome_lastColumn?_iff :
    (lastColumn? header headers field).isSome ↔
      ∃ title ∈ headers, (header title).field? = some field := by
  rw [lastColumn?, List.getLast?_isSome, ne_eq, List.map_eq_nil_iff, List.filter_eq_nil_iff]
  push Not
  constructor
  · rintro ⟨⟨title, column⟩, hm, hf⟩
    exact ⟨title, List.fst_mem_of_mem_zipIdx hm, by simpa using hf⟩
  · rintro ⟨title, hm, hf⟩
    obtain ⟨column, hc⟩ := List.mem_iff_getElem?.mp hm
    exact ⟨(title, column), List.mem_zipIdx_iff_getElem?.mpr hc, by simpa using hf⟩

theorem lastColumn?_lt {column : Nat} (h : lastColumn? header headers field = some column) :
    column < headers.length := by
  obtain ⟨⟨title, place⟩, hm, rfl⟩ := List.mem_map.mp (List.mem_of_getLast? h)
  exact List.snd_lt_of_mem_zipIdx (List.mem_of_mem_filter hm)

theorem zip_eq_map_zipIdx {row : List Text} (h : headers.length ≤ row.length) :
    headers.zip row = headers.zipIdx.map fun (title, column) => (title, row.getD column []) := by
  apply List.ext_getElem
  · rw [List.length_zip, List.length_map, List.length_zipIdx]
    omega
  · intro column hc hm
    have hr : column < row.length := by
      rw [List.length_zip] at hc
      omega
    simp [List.getElem?_eq_getElem hr]

/-- In a row that is long enough, the cell of a field is the last one whose header means it. -/
theorem cell?_eq_zip {row : List Text} (h : table.headers.length ≤ row.length) :
    cell? header table row field = (((table.headers.zip row).filter fun (title, _) =>
      (header title).field? = some field).map (·.2)).getLast? := by
  rw [zip_eq_map_zipIdx h, List.filter_map, List.map_map]
  unfold cell? lastColumn?
  rw [List.getLast?_map, List.getLast?_map]
  simp only [Function.comp_def]
  cases hl : (table.headers.zipIdx.filter fun (title, _) =>
      (header title).field? = some field).getLast? with
  | none => rfl
  | some last =>
    -- the default of the paired cell is never taken, because the row reaches every header
    have hm := List.mem_of_mem_filter (List.mem_of_getLast? hl)
    have hr : last.2 < row.length := Nat.lt_of_lt_of_le (List.snd_lt_of_mem_zipIdx hm) h
    show row[last.2]? = some (row.getD last.2 [])
    rw [List.getD_eq_getElem?_getD, List.getElem?_eq_getElem hr]
    rfl

theorem cell?_congr {row otherRow : List Text}
    (hc : lastColumn? header other.headers field = lastColumn? header table.headers field)
    (hr : ∀ column, lastColumn? header table.headers field = some column →
      otherRow[column]? = row[column]?) :
    cell? header other otherRow field = cell? header table row field := by
  unfold cell?
  rw [hc]
  cases hl : lastColumn? header table.headers field with
  | none => rfl
  | some column => exact hr column hl

/-- Rows of two tables that are both too short, or have the same cells for a join. -/
structure SameRow (header : Text → Header) (table other : Table) (row otherRow : List Text) :
    Prop where
  width : row.length < table.headers.length ↔ otherRow.length < other.headers.length
  cells : table.headers.length ≤ row.length → ∀ field ∈ Field.joined,
    cell? header table row field = cell? header other otherRow field

/-- Tables that are alike in all that a join reads. -/
structure SameReading (header : Text → Header) (table other : Table) : Prop where
  columns : ∀ field ∈ Field.joined, (∃ title ∈ table.headers, (header title).field? = some field) ↔
    ∃ title ∈ other.headers, (header title).field? = some field
  rows : List.Forall₂ (SameRow header table other) table.rows other.rows

theorem SameReading.ofColumns?_eq (h : SameReading header table other) :
    TableKind.ofColumns? (ColumnMap.ofHeaders header table.headers) =
      TableKind.ofColumns? (ColumnMap.ofHeaders header other.headers) := by
  apply TableKind.ofColumns?_congr
  intro field hf
  rw [ColumnMap.has, ColumnMap.has, ColumnMap.ofHeaders_apply, ColumnMap.ofHeaders_apply,
    Bool.eq_iff_iff, isSome_lastColumn?_iff, isSome_lastColumn?_iff]
  exact h.columns field hf

theorem SameReading.isLive_eq (h : SameReading header table other)
    (hk : (TableKind.ofColumns? (ColumnMap.ofHeaders header table.headers)).isSome)
    {row otherRow : List Text} (hr : SameRow header table other row otherRow) :
    isLive header table row = isLive header other otherRow := by
  have hw := hr.width
  rw [isLive_of_kind hk, isLive_of_kind (h.ofColumns?_eq ▸ hk)]
  by_cases hl : table.headers.length ≤ row.length
  · have hs : size header table row = size header other otherRow := by
      rw [size, size, hr.cells hl .size (by decide)]
    have ho : other.headers.length ≤ otherRow.length := by omega
    rw [hs, decide_eq_true hl, decide_eq_true ho]
  · have ho : ¬ other.headers.length ≤ otherRow.length := by omega
    rw [decide_eq_false hl, decide_eq_false ho, Bool.false_and, Bool.false_and]

theorem SameReading.step_eq {policies : Policies} (h : SameReading policies.header table other)
    (hk : (TableKind.ofColumns? (ColumnMap.ofHeaders policies.header table.headers)).isSome)
    {row otherRow : List Text} (hr : SameRow policies.header table other row otherRow)
    (state : JoinState) : step policies table state row = step policies other state otherRow := by
  unfold step
  rw [← h.isLive_eq hk hr]
  cases hl : isLive policies.header table row with
  | false => rfl
  | true =>
    rw [isLive_of_kind hk, Bool.and_eq_true, decide_eq_true_eq] at hl
    have hp : toPartial policies table row = toPartial policies other otherRow := by
      unfold toPartial size
      rw [hr.cells hl.1 .size (by decide), hr.cells hl.1 .vcpu (by decide),
        hr.cells hl.1 .memory (by decide), hr.cells hl.1 .network (by decide)]
    rw [hp]

theorem SameReading.foldl_step_eq {policies : Policies}
    (h : SameReading policies.header table other)
    (hk : (TableKind.ofColumns? (ColumnMap.ofHeaders policies.header table.headers)).isSome)
    {rows otherRows : List (List Text)}
    (hr : List.Forall₂ (SameRow policies.header table other) rows otherRows) (state : JoinState) :
    rows.foldl (step policies table) state = otherRows.foldl (step policies other) state := by
  induction hr generalizing state with
  | nil => rfl
  | cons hr _ ih =>
    rw [List.foldl_cons, List.foldl_cons, h.step_eq hk hr]
    exact ih _

end LiveRow

namespace Join

variable {policies : Policies} {table other : Table}

/-- Tables that are alike in all that a join reads are joined alike, into any state. -/
theorem joinTable_congr (h : LiveRow.SameReading policies.header table other)
    (state : JoinState) : joinTable policies state table = joinTable policies state other := by
  cases hk : TableKind.ofColumns? (ColumnMap.ofHeaders policies.header table.headers) with
  | none => rw [joinTable_of_none hk, joinTable_of_none (h.ofColumns?_eq ▸ hk)]
  | some kind =>
    have hs : (TableKind.ofColumns?
        (ColumnMap.ofHeaders policies.header table.headers)).isSome := by
      rw [hk]
      rfl
    rw [joinTable_of_kind hk, joinTable_of_kind (h.ofColumns?_eq ▸ hk)]
    exact h.foldl_step_eq hs h.rows _

end Join

namespace Table

/-- The table without the cells that stand under no header. -/
def cut (table : Table) : Table :=
  { table with rows := table.rows.map (·.take table.headers.length) }

/-- The columns of a table in another order, by their indexes. What a row lacks is left out. -/
def reorderPresent (order : List Nat) (table : Table) : Table where
  headers := order.filterMap (table.headers[·]?)
  rows := table.rows.map fun row => order.filterMap (row[·]?)

def isRead (header : Text → Header) (table : Table) (column : Nat) : Bool :=
  Field.joined.any fun field => LiveRow.lastColumn? header table.headers field = some column

def overwriteRow (header : Text → Header) (table : Table) (cells : Nat → Text)
    (row : List Text) : List Text :=
  row.mapIdx fun column own => if table.isRead header column then own else cells column

/-- The table with another header and other cells in the columns that a join does not read. -/
def overwrite (header : Text → Header) (title : Text) (cells : Nat → Nat → Text) (table : Table) :
    Table where
  headers := table.headers.mapIdx fun column own =>
    if table.isRead header column then own else title
  rows := table.rows.mapIdx fun place => table.overwriteRow header (cells place)

end Table

section Lists

variable {α β : Type}

theorem getLast?_filter_of_last {p : α → Bool} {l : List α}
    (h : ∀ a, l.getLast? = some a → p a) : (l.filter p).getLast? = l.getLast? := by
  rcases List.eq_nil_or_concat l with rfl | ⟨init, last, rfl⟩
  · rfl
  · rw [List.concat_eq_append] at h ⊢
    have hp : p last := h last List.getLast?_concat
    rw [List.filter_append, List.filter_cons_of_pos hp, List.filter_nil, List.getLast?_concat,
      List.getLast?_concat]

theorem zipIdx_mapIdx (f : Nat → α → β) (l : List α) :
    (l.mapIdx f).zipIdx = l.zipIdx.map fun (a, i) => (f i a, i) := by
  apply List.ext_getElem?
  intro i
  rw [List.getElem?_zipIdx, List.getElem?_mapIdx, List.getElem?_map, List.getElem?_zipIdx,
    Option.map_map, Option.map_map]
  simp only [Function.comp_def, Nat.zero_add]

theorem forall₂_mapIdx_left {R : β → α → Prop} {f : Nat → α → β}
    (h : ∀ i a, R (f i a) a) (l : List α) : List.Forall₂ R (l.mapIdx f) l := by
  induction l generalizing f with
  | nil => exact .nil
  | cons a rest ih =>
    rw [List.mapIdx_cons]
    exact .cons (h 0 a) (ih fun i => h (i + 1))

/-- Lists read in one order keep their elements paired. -/
theorem zip_filterMap_getElem? {a : List α} {b : List β} {order : List Nat}
    (h : ∀ i ∈ order, i < a.length ∧ i < b.length) :
    (order.filterMap (a[·]?)).zip (order.filterMap (b[·]?)) =
      order.filterMap ((a.zip b)[·]?) := by
  induction order with
  | nil => rfl
  | cons i rest ih =>
    obtain ⟨ha, hb⟩ := h i List.mem_cons_self
    have hz : i < (a.zip b).length := by
      rw [List.length_zip]
      omega
    have hr := ih fun j hj => h j (List.mem_cons_of_mem _ hj)
    rw [List.filterMap_cons_some (List.getElem?_eq_getElem ha),
      List.filterMap_cons_some (List.getElem?_eq_getElem hb),
      List.filterMap_cons_some (List.getElem?_eq_getElem hz), List.zip_cons_cons, hr,
      List.getElem_zip]

theorem filterMap_range_getElem? (l : List α) (n : Nat) :
    (List.range n).filterMap (l[·]?) = l.take n := by
  induction n with
  | zero => rfl
  | succ n ih =>
    rw [List.range_succ, List.filterMap_append, ih, List.take_add_one]
    rfl

theorem perm_filterMap_getElem? {order : List Nat} {l : List α} {n : Nat}
    (ho : order.Perm (List.range n)) : (order.filterMap (l[·]?)).Perm (l.take n) := by
  rw [← filterMap_range_getElem?]
  exact ho.filterMap _

theorem eq_of_perm_of_length_le {l k : List α} (h : l.Perm k) (hl : l.length ≤ 1) :
    l = k := by
  match l, hl with
  | [], _ => exact h.nil_eq
  | [_], _ => exact (List.perm_singleton.mp h.symm).symm

end Lists

namespace LiveRow

variable {header : Text → Header} {field : Field} {table : Table}

theorem sameReading_cut (header : Text → Header) (table : Table) :
    SameReading header table.cut table where
  columns _ _ := Iff.rfl
  rows := by
    show List.Forall₂ _ (table.rows.map _) table.rows
    rw [List.forall₂_map_left_iff, List.forall₂_same]
    intro row _
    constructor
    · show (row.take table.headers.length).length < table.headers.length ↔ _
      rw [List.length_take]
      omega
    · intro _ field _
      apply cell?_congr rfl
      intro column hc
      exact List.getElem?_take_of_lt (lastColumn?_lt hc)

theorem isRead_of_lastColumn? (hf : field ∈ Field.joined) {column : Nat}
    (hc : lastColumn? header table.headers field = some column) :
    table.isRead header column = true :=
  List.any_eq_true.mpr ⟨field, hf, decide_eq_true hc⟩

/-- What is written over the other columns does not move the last column of a field. -/
theorem lastColumn?_overwrite {title : Text}
    (ht : ∀ field ∈ Field.joined, (header title).field? ≠ some field) (cells : Nat → Nat → Text)
    (table : Table) (hf : field ∈ Field.joined) :
    lastColumn? header (table.overwrite header title cells).headers field =
      lastColumn? header table.headers field := by
  have hm (own : Text) (column : Nat) :
      decide ((header (if table.isRead header column then own else title)).field? = some field) =
        (table.isRead header column && decide ((header own).field? = some field)) := by
    cases table.isRead header column with
    | true => rfl
    | false => exact decide_eq_false (ht field hf)
  -- the columns that still mean the field are those that meant it and are read; the last is read
  show (((table.headers.mapIdx _).zipIdx.filter _).map _).getLast? = _
  rw [zipIdx_mapIdx, List.filter_map, List.map_map]
  simp only [Function.comp_def, hm]
  rw [← List.filter_filter, List.getLast?_map, getLast?_filter_of_last, ← List.getLast?_map]
  · rfl
  · rintro ⟨own, column⟩ hl
    apply isRead_of_lastColumn? hf
    rw [lastColumn?, List.getLast?_map, hl]
    rfl

theorem sameRow_overwrite {title : Text}
    (ht : ∀ field ∈ Field.joined, (header title).field? ≠ some field) (cells : Nat → Nat → Text)
    (table : Table) (place : Nat) (row : List Text) :
    SameRow header (table.overwrite header title cells) table
      (table.overwriteRow header (cells place) row) row where
  width := by
    rw [Table.overwrite, Table.overwriteRow, List.length_mapIdx, List.length_mapIdx]
  cells _ field hf := by
    apply (cell?_congr (lastColumn?_overwrite ht cells table hf) _)
    intro column hc
    rw [Table.overwriteRow, List.getElem?_mapIdx, isRead_of_lastColumn? hf hc]
    exact Option.map_id'

theorem sameReading_overwrite {title : Text}
    (ht : ∀ field ∈ Field.joined, (header title).field? ≠ some field) (cells : Nat → Nat → Text)
    (table : Table) : SameReading header (table.overwrite header title cells) table where
  columns field hf := by
    rw [← isSome_lastColumn?_iff, lastColumn?_overwrite ht cells table hf, isSome_lastColumn?_iff]
  rows := forall₂_mapIdx_left (sameRow_overwrite ht cells table) table.rows

/-- A row that is long enough holds the same cell for a field in any order of the columns, where
no other column means the field. -/
theorem cell?_reorderPresent {order : List Nat} (ho : order.Perm (List.range table.headers.length))
    (h1 : table.headers.countP (fun title => (header title).field? = some field) ≤ 1)
    {row : List Text} (hw : table.headers.length ≤ row.length) :
    cell? header (table.reorderPresent order) (order.filterMap (row[·]?)) field =
      cell? header table row field := by
  have hl : (order.filterMap (table.headers[·]?)).length ≤ (order.filterMap (row[·]?)).length := by
    rw [(perm_filterMap_getElem? ho).length_eq, (perm_filterMap_getElem? ho).length_eq,
      List.length_take, List.length_take]
    omega
  have hi (i : Nat) (hm : i ∈ order) : i < table.headers.length ∧ i < row.length := by
    have := List.mem_range.mp (ho.mem_iff.mp hm)
    omega
  have hz : (table.headers.zip row).take table.headers.length = table.headers.zip row := by
    apply List.take_of_length_le
    rw [List.length_zip]
    omega
  have hp : ((order.filterMap (table.headers[·]?)).zip (order.filterMap (row[·]?))).Perm
      (table.headers.zip row) := by
    have hf := perm_filterMap_getElem? (l := table.headers.zip row) ho
    rwa [hz, ← zip_filterMap_getElem? hi] at hf
  rw [cell?_eq_zip hl, cell?_eq_zip hw]
  congr 2
  -- a permutation of at most one pair is no change
  apply eq_of_perm_of_length_le (hp.filter _)
  rw [(hp.filter _).length_eq, ← List.countP_eq_length_filter]
  have hm : (table.headers.zip row).map Prod.fst = table.headers := List.map_fst_zip hw
  rwa [← hm, List.countP_map] at h1

/-- Where each field has one column, the order of the columns does not count. -/
theorem sameReading_reorderPresent {order : List Nat}
    (ho : order.Perm (List.range table.headers.length))
    (h1 : ∀ field ∈ Field.joined,
      table.headers.countP (fun title => (header title).field? = some field) ≤ 1) :
    SameReading header (table.reorderPresent order) table where
  columns field _ := by
    have hp : (order.filterMap (table.headers[·]?)).Perm table.headers := by
      have ht := perm_filterMap_getElem? (l := table.headers) ho
      rwa [List.take_length] at ht
    constructor
    · rintro ⟨title, hm, hf⟩
      exact ⟨title, hp.mem_iff.mp hm, hf⟩
    · rintro ⟨title, hm, hf⟩
      exact ⟨title, hp.mem_iff.mpr hm, hf⟩
  rows := by
    show List.Forall₂ _ (table.rows.map _) table.rows
    rw [List.forall₂_map_left_iff, List.forall₂_same]
    intro row _
    have hw : (order.filterMap (row[·]?)).length < (order.filterMap (table.headers[·]?)).length ↔
        row.length < table.headers.length := by
      rw [(perm_filterMap_getElem? ho).length_eq, (perm_filterMap_getElem? ho).length_eq,
        List.length_take, List.length_take]
      omega
    refine ⟨hw, ?_⟩
    intro hl field hf
    apply cell?_reorderPresent ho (h1 field hf)
    exact Nat.le_of_not_lt fun hc => Nat.not_le_of_lt (hw.mpr hc) hl

end LiveRow

namespace Join

/-- Tables that are alike in what a join reads are joined alike, into any state. So it does not
count which cells stand under no header, what stands in a column that is not the last of a field,
and in which order the columns stand where each field has one. -/
theorem decided_by_last_columns (policies : Policies) (state : JoinState) :
    (∀ table other, LiveRow.SameReading policies.header table other →
      joinTable policies state table = joinTable policies state other) ∧
    ∀ table, joinTable policies state table.cut = joinTable policies state table ∧
      (∀ title cells, (∀ field ∈ Field.joined, (policies.header title).field? ≠ some field) →
        joinTable policies state (table.overwrite policies.header title cells) =
          joinTable policies state table) ∧
      ∀ order, order.Perm (List.range table.headers.length) →
        (∀ field ∈ Field.joined, table.headers.countP
          (fun title => (policies.header title).field? = some field) ≤ 1) →
        joinTable policies state (table.reorderPresent order) = joinTable policies state table := by
  refine ⟨fun table other h => joinTable_congr h state, fun table => ⟨?_, ?_, ?_⟩⟩
  · exact joinTable_congr (LiveRow.sameReading_cut policies.header table) state
  · intro title cells ht
    exact joinTable_congr (LiveRow.sameReading_overwrite ht cells table) state
  · intro order ho h1
    exact joinTable_congr (LiveRow.sameReading_reorderPresent ho h1) state

theorem decided_by_last_columns_two_processor_columns :
    joinTable .standard .initial
        ⟨["Size".toList, "vCPU".toList, "Cores (physical)".toList, "Notes".toList],
          [[['A'], ['4'], ['2'], "old".toList, "surplus".toList], [['B']]]⟩ =
      joinTable .standard .initial
        ⟨["vCPUs".toList, " SIZE ".toList], [[['2'], ['A']], [['C']]]⟩ ∧
    joinTable .standard .initial
        (Table.overwrite Policies.standard.header "Tier".toList (fun _ _ => ['9'])
          ⟨["vCPU".toList, "Size".toList, "Cores".toList], [[['4'], ['A'], ['2']]]⟩) =
      joinTable .standard .initial
        ⟨["vCPU".toList, "Size".toList, "Cores".toList], [[['4'], ['A'], ['2']]]⟩ ∧
    joinTable .standard .initial
        (Table.reorderPresent [2, 0, 1]
          ⟨["Size".toList, "Notes".toList, "RAM".toList], [[['A'], ['4'], ['8']], [['B']]]⟩) =
      joinTable .standard .initial
        ⟨["Size".toList, "Notes".toList, "RAM".toList], [[['A'], ['4'], ['8']], [['B']]]⟩ := by
  obtain ⟨hs, ht⟩ := decided_by_last_columns .standard .initial
  refine ⟨hs _ _ ⟨?_, ?_⟩, (ht _).2.1 _ _ ?_, (ht _).2.2 _ ?_ ?_⟩
  · decide +kernel
  · exact .cons ⟨by decide, by decide +kernel⟩ (.cons ⟨by decide, by decide +kernel⟩ .nil)
  · decide +kernel
  · decide
  · decide +kernel

end Join
end InstanceCatalog
