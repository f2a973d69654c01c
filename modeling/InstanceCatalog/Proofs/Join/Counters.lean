import InstanceCatalog.Proofs.Join.Columns
import InstanceCatalog.Proofs.Join.History

namespace InstanceCatalog

def JoinStats.add (stats more : JoinStats) : JoinStats where
  tables := stats.tables + more.tables
  ignored := stats.ignored + more.ignored
  rows := stats.rows + more.rows
  skipped := stats.skipped + more.skipped

theorem JoinStats.zero_add (stats : JoinStats) : JoinStats.zero.add stats = stats := by
  simp only [add, zero, Nat.zero_add]

theorem JoinStats.add_assoc (first second third : JoinStats) :
    (first.add second).add third = first.add (second.add third) := by
  simp only [add, Nat.add_assoc]

namespace Table

def isJoinable (header : Text → Header) (table : Table) : Bool :=
  table.headers.any (fun title => (header title).field? = some .size) &&
    [Field.vcpu, .memory, .network].any fun field =>
      table.headers.any fun title => (header title).field? = some field

/-- The trimmed size cells of the rows that are as wide as the headers, less the blank ones. -/
def namedSizes (header : Text → Header) (table : Table) : List Text :=
  if table.isJoinable header then
    ((table.rows.filter (table.headers.length ≤ ·.length)).map (LiveRow.size header table)).filter
      (!·.isEmpty)
  else []

def skippedRows (header : Text → Header) (table : Table) : List (List Text) :=
  if table.isJoinable header then
    table.rows.filter fun row =>
      row.length < table.headers.length || (LiveRow.size header table row).isEmpty
  else []

variable (header : Text → Header) (table : Table)

theorem any_headers_eq (field : Field) :
    (table.headers.any fun title => (header title).field? = some field) =
      (LiveRow.lastColumn? header table.headers field).isSome := by
  rw [Bool.eq_iff_iff, LiveRow.isSome_lastColumn?_iff]
  simp only [List.any_eq_true, decide_eq_true_eq]

theorem isJoinable_eq : table.isJoinable header =
    (TableKind.ofColumns? (ColumnMap.ofHeaders header table.headers)).isSome := by
  rw [TableKind.isSome_ofColumns?]
  simp only [isJoinable, any_headers_eq, ColumnMap.has, ColumnMap.ofHeaders_apply, List.any_cons,
    List.any_nil, Bool.or_false, Bool.or_assoc]

theorem isLive_eq : LiveRow.isLive header table = fun row =>
    table.isJoinable header && (decide (table.headers.length ≤ row.length) &&
      !(LiveRow.size header table row).isEmpty) := by
  rw [LiveRow.isLive_eq, isJoinable_eq]

/-- The sizes that a table names are those of its live rows. -/
theorem namedSizes_eq : table.namedSizes header =
    (table.rows.filter (LiveRow.isLive header table)).map (LiveRow.size header table) := by
  rw [namedSizes, isLive_eq]
  cases table.isJoinable header with
  | false => simp only [Bool.false_and, List.filter_false, List.map_nil, Bool.false_eq_true, if_false]
  | true =>
    rw [if_pos rfl, List.filter_map, List.filter_filter]
    simp only [Bool.true_and, Bool.and_comm, Function.comp_def]

theorem length_namedSizes :
    (table.namedSizes header).length = table.rows.countP (LiveRow.isLive header table) := by
  rw [namedSizes_eq, List.length_map, List.countP_eq_length_filter]

variable {header table}

theorem length_skippedRows (hj : table.isJoinable header = true) :
    (table.skippedRows header).length = table.rows.countP (!LiveRow.isLive header table ·) := by
  rw [skippedRows, if_pos hj, List.countP_eq_length_filter, isLive_eq]
  simp only [hj, Bool.true_and, Bool.not_and, Bool.not_not, ← decide_not, Nat.not_le]

/-- Each row of a table that is not ignored names a size or is skipped. -/
theorem length_namedSizes_add_length_skippedRows (hj : table.isJoinable header = true) :
    (table.namedSizes header).length + (table.skippedRows header).length = table.rows.length := by
  rw [length_namedSizes, length_skippedRows hj,
    List.length_eq_countP_add_countP (LiveRow.isLive header table)]
  simp only [Bool.not_eq_true, Bool.decide_eq_false]

/-- An ignored table names no size and skips no row, so its rows are not among those counted. -/
theorem length_flatMap_rows (header : Text → Header) (tables : List Table) :
    (tables.flatMap (·.namedSizes header)).length + (tables.flatMap (·.skippedRows header)).length =
      ((tables.filter (·.isJoinable header)).flatMap (·.rows)).length := by
  induction tables with
  | nil => rfl
  | cons table rest ih =>
    rw [List.flatMap_cons, List.flatMap_cons, List.length_append, List.length_append]
    cases hj : table.isJoinable header with
    | false =>
      rw [List.filter_cons_of_neg (by simp [hj]), ← ih]
      simp [namedSizes, skippedRows, hj]
    | true =>
      have hr := length_namedSizes_add_length_skippedRows hj
      rw [List.filter_cons_of_pos hj, List.flatMap_cons, List.length_append, ← ih, ← hr]
      omega

end Table

namespace JoinStats

/-- The counts for tables, told from the tables alone. -/
def ofTables (header : Text → Header) (tables : List Table) : JoinStats where
  tables := tables.length
  ignored := tables.countP (!·.isJoinable header)
  rows := (tables.flatMap (·.namedSizes header)).length
  skipped := (tables.flatMap (·.skippedRows header)).length

theorem ofTables_append (header : Text → Header) (first second : List Table) :
    ofTables header (first ++ second) = (ofTables header first).add (ofTables header second) := by
  simp only [ofTables, add, List.length_append, List.countP_append, List.flatMap_append]

end JoinStats

namespace Join

variable {policies : Policies} {table : Table}

/-- Each row of a table of some kind is counted once, as merged or as skipped. -/
theorem stats_foldl_step (rows : List (List Text)) (state : JoinState) :
    (rows.foldl (LiveRow.step policies table) state).stats =
      state.stats.add ⟨0, 0, rows.countP (LiveRow.isLive policies.header table),
        rows.countP (!LiveRow.isLive policies.header table ·)⟩ := by
  induction rows generalizing state with
  | nil => rfl
  | cons row rest ih =>
    rw [List.foldl_cons, ih, List.countP_cons, List.countP_cons]
    unfold LiveRow.step
    cases LiveRow.isLive policies.header table row with
    | false =>
      simp only [JoinStats.add, Bool.not_false, Bool.false_eq_true, if_false, if_true, Nat.add_zero,
        Nat.add_assoc, Nat.add_comm 1]
    | true =>
      simp only [JoinStats.add, Bool.not_true, Bool.false_eq_true, if_false, if_true, Nat.add_zero,
        Nat.add_assoc, Nat.add_comm 1]

/-- What a table adds to the counters does not depend on what was joined before. -/
theorem stats_joinTable (policies : Policies) (state : JoinState) (table : Table) :
    (joinTable policies state table).stats =
      state.stats.add (JoinStats.ofTables policies.header [table]) := by
  have hj := table.isJoinable_eq policies.header
  cases hk : TableKind.ofColumns? (ColumnMap.ofHeaders policies.header table.headers) with
  | none =>
    rw [hk, Option.isSome_none] at hj
    rw [joinTable_of_none hk]
    simp [JoinStats.ofTables, JoinStats.add, Table.namedSizes, Table.skippedRows, hj]
  | some kind =>
    rw [hk, Option.isSome_some] at hj
    rw [joinTable_of_kind hk, stats_foldl_step, ← Table.length_namedSizes,
      ← Table.length_skippedRows hj]
    simp [JoinStats.ofTables, JoinStats.add, hj]

theorem stats_foldl_joinTable (policies : Policies) (tables : List Table) (state : JoinState) :
    (tables.foldl (joinTable policies) state).stats =
      state.stats.add (JoinStats.ofTables policies.header tables) := by
  induction tables generalizing state with
  | nil => rfl
  | cons table rest ih =>
    rw [List.foldl_cons, ih, stats_joinTable, JoinStats.add_assoc, ← JoinStats.ofTables_append,
      List.singleton_append]

theorem stats_joinTables (policies : Policies) (tables : List Table) :
    (joinTables policies tables).stats = JoinStats.ofTables policies.header tables := by
  rw [joinTables, stats_foldl_joinTable]
  exact JoinStats.zero_add _

theorem length_joinTables (policies : Policies) (tables : List Table) :
    (joinTables policies tables).accumulator.length =
      (tables.flatMap (·.namedSizes policies.header)).toFinset.card := by
  rw [accumulator_joinTables, (Accumulator.represents_mergeAll _).length, LiveRow.ofTables,
    List.map_flatMap]
  simp only [Table.namedSizes_eq, LiveRow.ofTable, List.map_map]
  rfl

structure Accounts (header : Text → Header) (tables : List Table) (state : JoinState) : Prop where
  counted : state.stats.tables = tables.length
  ignored : state.stats.ignored = tables.countP (!·.isJoinable header)
  total : state.stats.rows + state.stats.skipped =
    ((tables.filter (·.isJoinable header)).flatMap (·.rows)).length
  named : state.stats.rows = (tables.flatMap (·.namedSizes header)).length
  distinct : state.accumulator.length = (tables.flatMap (·.namedSizes header)).toFinset.card
  emitted : state.accumulator.finish.length ≤ state.accumulator.length
  bounded : state.accumulator.length ≤ state.stats.rows

theorem accounts_joinTables (policies : Policies) (tables : List Table) :
    Accounts policies.header tables (joinTables policies tables) where
  counted := by rw [stats_joinTables, JoinStats.ofTables]
  ignored := by rw [stats_joinTables, JoinStats.ofTables]
  total := by
    rw [stats_joinTables, JoinStats.ofTables]
    exact Table.length_flatMap_rows policies.header tables
  named := by rw [stats_joinTables, JoinStats.ofTables]
  distinct := length_joinTables policies tables
  emitted := List.length_filterMap_le _ _
  bounded := by
    rw [stats_joinTables, length_joinTables, JoinStats.ofTables]
    exact List.toFinset_card_le _

/-- The counters of a join account for every table and every row, and those of tables joined one
list after the other are the sums of the counters of the two lists. -/
theorem counters_account_and_add (policies : Policies) :
    (∀ tables, Accounts policies.header tables (joinTables policies tables)) ∧
    ∀ first second, (joinTables policies (first ++ second)).stats =
      (joinTables policies first).stats.add (joinTables policies second).stats := by
  refine ⟨accounts_joinTables policies, fun first second => ?_⟩
  rw [stats_joinTables, stats_joinTables, stats_joinTables, JoinStats.ofTables_append]

/-- A short row, a blank size, a size that comes again, and a table without counts. -/
example : (joinTables .standard
    [⟨["Size".toList, "vCPU".toList], [[['A']], [[' '], ['2']], [['B'], ['2']], [[' ', 'B'], ['4']]]⟩,
      ⟨["Size".toList, "Notes".toList], [[['C'], ['8']]]⟩]).stats = ⟨2, 1, 2, 2⟩ := by
  decide +kernel

end Join
end InstanceCatalog
