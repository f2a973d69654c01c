import InstanceCatalog.Document
import InstanceCatalog.Proofs.Join.Gathering

/-!
The join by its rows. A live row is a row that says something about a size; what it says is the
number in the cell under the last header of each field. A join goes through the rows of a table one
by one, merges the live ones and skips the others. Its records are the sizes for which live rows
give all counts, each with the last count of each field.
-/

namespace InstanceCatalog
namespace LiveRow

def lastColumn? (header : Text → Header) (headers : List Text) (field : Field) : Option Nat :=
  ((headers.zipIdx.filter fun (text, _) => (header text).field? = some field).map (·.2)).getLast?

def cell? (header : Text → Header) (table : Table) (row : List Text) (field : Field) :
    Option Text := do
  row[← lastColumn? header table.headers field]?

def size (header : Text → Header) (table : Table) (row : List Text) : Text :=
  Text.trim ((cell? header table row .size).getD [])

/-- A row is live when its table has a column for the size and one for some count, it has as many
cells as there are headers, and its size is not blank. -/
def isLive (header : Text → Header) (table : Table) (row : List Text) : Bool :=
  (lastColumn? header table.headers .size).isSome &&
    [Field.vcpu, .memory, .network].any (fun field =>
      (lastColumn? header table.headers field).isSome) &&
    decide (table.headers.length ≤ row.length) && !(size header table row).isEmpty

def toPartial (policies : Policies) (table : Table) (row : List Text) : Partial where
  size := size policies.header table row
  vcpu := (cell? policies.header table row .vcpu).bind policies.number
  memory := (cell? policies.header table row .memory).bind policies.number
  network := (cell? policies.header table row .network).bind policies.number

def ofTable (policies : Policies) (table : Table) : List Partial :=
  (table.rows.filter (isLive policies.header table)).map (toPartial policies table)

def ofTables (policies : Policies) (tables : List Table) : List Partial :=
  tables.flatMap (ofTable policies)

/-- The records that rows give: the sizes in order of first sight, less those for which a count is
missing, each with the last count of each field. -/
def records (rows : List Partial) : List Record :=
  (Partial.sizes rows).filterMap fun size => do
    return ⟨size, ← Partial.lastCount Partial.vcpu size rows,
      ← Partial.lastCount Partial.memory size rows, ← Partial.lastCount Partial.network size rows⟩

end LiveRow

namespace ColumnMap

theorem extend_apply (header : Text → Header) (columns : ColumnMap) (start : Nat)
    (headers : List Text) (field : Field) :
    extend header columns start headers field =
      ((((headers.zipIdx start).filter fun (text, _) => (header text).field? = some field).map
        (·.2)).getLast?).or (columns field) := by
  induction headers generalizing columns start with
  | nil => simp [extend]
  | cons text rest ih =>
    simp only [extend, List.zipIdx_cons]
    rw [ih]
    cases hf : (header text).field? with
    | none => simp [hf]
    | some found =>
      by_cases he : found = field
      · simp [hf, he, set, List.getLast?_cons]
      · simp [hf, he, set, Ne.symm he]

/-- The column that is kept for a field is the last one that means it. -/
theorem ofHeaders_apply (header : Text → Header) (headers : List Text) (field : Field) :
    ofHeaders header headers field = LiveRow.lastColumn? header headers field := by
  rw [ofHeaders, extend_apply]
  simp [empty, LiveRow.lastColumn?]

end ColumnMap

namespace TableKind

theorem isSome_ofColumns? (columns : ColumnMap) :
    (ofColumns? columns).isSome = (columns.has .size &&
      (columns.has .vcpu || columns.has .memory || columns.has .network)) := by
  unfold ofColumns?
  cases columns.has .size <;> cases columns.has .vcpu <;> cases columns.has .memory <;>
    cases columns.has .network <;> rfl

/-- A table has a kind only with a column for sizes, and its kind tells which counts it has. -/
theorem ofColumns?_eq_some {columns : ColumnMap} {kind : TableKind}
    (h : ofColumns? columns = some kind) :
    columns.has .size = true ∧ kind.hasBasics = (columns.has .vcpu || columns.has .memory) ∧
      kind.hasNetwork = columns.has .network := by
  revert h
  unfold ofColumns?
  cases columns.has .size <;> cases columns.has .vcpu <;> cases columns.has .memory <;>
    cases columns.has .network <;> rintro ⟨⟩ <;> exact ⟨rfl, rfl, rfl⟩

end TableKind

namespace LiveRow

theorem isLive_eq (header : Text → Header) (table : Table) : isLive header table = fun row =>
    (TableKind.ofColumns? (ColumnMap.ofHeaders header table.headers)).isSome &&
      (decide (table.headers.length ≤ row.length) && !(size header table row).isEmpty) := by
  funext row
  rw [TableKind.isSome_ofColumns?]
  simp only [isLive, ColumnMap.has, ColumnMap.ofHeaders_apply, List.any_cons, List.any_nil,
    Bool.or_false, Bool.or_assoc, Bool.and_assoc]

/-- Whether a row of a table of some kind is live is a matter of its width and its size. -/
theorem isLive_of_kind {header : Text → Header} {table : Table}
    (hk : (TableKind.ofColumns? (ColumnMap.ofHeaders header table.headers)).isSome)
    (row : List Text) :
    isLive header table row = (decide (table.headers.length ≤ row.length) &&
      !(size header table row).isEmpty) := by
  simp only [isLive_eq, hk, Bool.true_and]

def step (policies : Policies) (table : Table) (state : JoinState) (row : List Text) : JoinState :=
  if isLive policies.header table row then
    { accumulator := state.accumulator.merge (toPartial policies table row)
      stats := { state.stats with rows := state.stats.rows + 1 } }
  else { state with stats.skipped := state.stats.skipped + 1 }

/-- A live row is merged and any other row leaves the accumulator as it is. -/
theorem accumulator_foldl_step (policies : Policies) (table : Table) (rows : List (List Text))
    (state : JoinState) : (rows.foldl (step policies table) state).accumulator =
      state.accumulator.mergeAll ((rows.filter (isLive policies.header table)).map
        (toPartial policies table)) := by
  induction rows generalizing state with
  | nil => rfl
  | cons row rest ih =>
    rw [List.foldl_cons, ih, step]
    by_cases hl : isLive policies.header table row
    · rw [if_pos hl, List.filter_cons_of_pos hl]
      rfl
    · rw [if_neg hl, List.filter_cons_of_neg hl]

end LiveRow

namespace Join

theorem value_of_not_has {number : Text → Option Nat} {columns : ColumnMap} {row : List Text}
    {field : Field} (h : columns.has field = false) : value number columns row field = none := by
  have hc : columns field = none := by simpa [ColumnMap.has] using h
  simp [value, hc]

theorem value_ofHeaders (policies : Policies) (table : Table) (row : List Text) (field : Field) :
    value policies.number (ColumnMap.ofHeaders policies.header table.headers) row field =
      (LiveRow.cell? policies.header table row field).bind policies.number := by
  simp [value, LiveRow.cell?, ColumnMap.ofHeaders_apply, Option.bind_assoc]

/-- The kind of a table holds back no count: where it asks for none, there is no column. -/
theorem rowPartial_eq_toPartial {policies : Policies} {table : Table} {kind : TableKind}
    (h : TableKind.ofColumns? (ColumnMap.ofHeaders policies.header table.headers) = some kind)
    (row : List Text) :
    rowPartial policies.number (ColumnMap.ofHeaders policies.header table.headers) kind
        (LiveRow.size policies.header table row) row =
      LiveRow.toPartial policies table row := by
  obtain ⟨-, hb, hn⟩ := TableKind.ofColumns?_eq_some h
  have hv (gate : Bool) (field : Field)
      (hg : gate = false → (ColumnMap.ofHeaders policies.header table.headers).has field = false) :
      (if gate then
        value policies.number (ColumnMap.ofHeaders policies.header table.headers) row field
        else none) = (LiveRow.cell? policies.header table row field).bind policies.number := by
    rw [← value_ofHeaders]
    cases gate with
    | true => rfl
    | false => exact (value_of_not_has (hg rfl)).symm
  unfold rowPartial LiveRow.toPartial
  rw [hv _ .vcpu, hv _ .memory, hv _ .network]
  · simp [hn]
  · simp_all
  · simp_all

theorem rowSize?_eq {header : Text → Header} {table : Table} {column : Nat} (row : List Text)
    (hk : (TableKind.ofColumns? (ColumnMap.ofHeaders header table.headers)).isSome)
    (hc : ColumnMap.ofHeaders header table.headers .size = some column) :
    rowSize? table.headers.length column row =
      if LiveRow.isLive header table row then some (LiveRow.size header table row) else none := by
  have hs : LiveRow.size header table row = Text.trim (row[column]?.getD []) := by
    rw [ColumnMap.ofHeaders_apply] at hc
    simp [LiveRow.size, LiveRow.cell?, hc]
  rw [LiveRow.isLive_of_kind hk, hs, rowSize?]
  by_cases hw : row.length < table.headers.length
  · simp [hw, Nat.not_le_of_lt hw]
  · cases row[column]? with
    | none => simp [hw, Text.trim, Text.strip, Text.dropEndWhile]
    | some cell => simp [hw, Nat.le_of_not_lt hw, ← Bool.not_eq_true]

variable {policies : Policies} {table : Table}

theorem joinRow_eq_step {kind : TableKind} {column : Nat}
    (hk : TableKind.ofColumns? (ColumnMap.ofHeaders policies.header table.headers) = some kind)
    (hc : ColumnMap.ofHeaders policies.header table.headers .size = some column)
    (state : JoinState) (row : List Text) :
    joinRow policies.number (ColumnMap.ofHeaders policies.header table.headers) kind
      table.headers.length column state row = LiveRow.step policies table state row := by
  unfold joinRow LiveRow.step
  rw [rowSize?_eq row (by rw [hk]; rfl) hc]
  cases LiveRow.isLive policies.header table row with
  | false => rfl
  | true => simp only [if_true, rowPartial_eq_toPartial hk row]

theorem joinTable_of_none
    (hk : TableKind.ofColumns? (ColumnMap.ofHeaders policies.header table.headers) = none)
    (state : JoinState) : joinTable policies state table =
      { state with stats := { state.stats with
        tables := state.stats.tables + 1, ignored := state.stats.ignored + 1 } } := by
  simp only [joinTable, hk]

theorem joinTable_of_kind {kind : TableKind}
    (hk : TableKind.ofColumns? (ColumnMap.ofHeaders policies.header table.headers) = some kind)
    (state : JoinState) : joinTable policies state table =
      table.rows.foldl (LiveRow.step policies table)
        { state with stats.tables := state.stats.tables + 1 } := by
  obtain ⟨hs, -, -⟩ := TableKind.ofColumns?_eq_some hk
  obtain ⟨column, hc⟩ := Option.isSome_iff_exists.mp hs
  have hf : joinRow policies.number (ColumnMap.ofHeaders policies.header table.headers) kind
      table.headers.length column = LiveRow.step policies table := by
    funext state row
    exact joinRow_eq_step hk hc state row
  simp only [joinTable, hk, hc, hf]

/-- A table adds what its live rows say; one of no kind has no live rows. -/
theorem accumulator_joinTable (policies : Policies) (state : JoinState) (table : Table) :
    (joinTable policies state table).accumulator =
      state.accumulator.mergeAll (LiveRow.ofTable policies table) := by
  cases hk : TableKind.ofColumns? (ColumnMap.ofHeaders policies.header table.headers) with
  | none =>
    have hl : table.rows.filter (LiveRow.isLive policies.header table) = [] :=
      List.filter_eq_nil_iff.mpr fun row _ => by simp [LiveRow.isLive_eq, hk]
    rw [joinTable_of_none hk, LiveRow.ofTable, hl]
    rfl
  | some kind => rw [joinTable_of_kind hk, LiveRow.accumulator_foldl_step, LiveRow.ofTable]

theorem accumulator_foldl_joinTable (policies : Policies) (tables : List Table)
    (state : JoinState) :
    (tables.foldl (joinTable policies) state).accumulator =
      state.accumulator.mergeAll (LiveRow.ofTables policies tables) := by
  induction tables generalizing state with
  | nil => rfl
  | cons table rest ih =>
    have hc : LiveRow.ofTables policies (table :: rest) =
        LiveRow.ofTable policies table ++ LiveRow.ofTables policies rest := List.flatMap_cons
    rw [List.foldl_cons, ih, accumulator_joinTable, hc, Accumulator.mergeAll_append]

theorem accumulator_joinTables (policies : Policies) (tables : List Table) :
    (joinTables policies tables).accumulator =
      Accumulator.empty.mergeAll (LiveRow.ofTables policies tables) :=
  accumulator_foldl_joinTable policies tables .initial

/-- The records of a join are those that its live rows give, for any tables and policies. -/
theorem finish_joinTables (policies : Policies) (tables : List Table) :
    (joinTables policies tables).accumulator.finish =
      LiveRow.records (LiveRow.ofTables policies tables) := by
  rw [Accumulator.finish, accumulator_joinTables, Accumulator.records_mergeAll,
    List.filterMap_map]
  rfl

end Join

namespace Document

/-- The records of tables, and of the tables in a document, are what their live rows give: the
sizes for which some live row has each count, once each in order of first sight, with the count of
the last live row that has one. -/
theorem process_eq_records (policies : Policies) :
    (∀ tables, (Join.joinTables policies tables).accumulator.finish =
      LiveRow.records (LiveRow.ofTables policies tables)) ∧
    ∀ document, (process policies document).1 =
      LiveRow.records (LiveRow.ofTables policies (Table.locate document)) :=
  ⟨Join.finish_joinTables policies, fun document =>
    Join.finish_joinTables policies (Table.locate document)⟩

end Document
end InstanceCatalog
