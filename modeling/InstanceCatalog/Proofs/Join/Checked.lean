import InstanceCatalog.Proofs.Join.Counters
import InstanceCatalog.Proofs.Join.Reachable

namespace InstanceCatalog
namespace Accumulator

def getChecked? (size : Text) (acc : Accumulator) : Option (Option Partial) :=
  match acc.place? size with
  | none => some none
  | some place => acc.records[place]?.map some

theorem Indexed.getChecked? {acc : Accumulator} (h : acc.Indexed) (size : Text) :
    acc.getChecked? size = some (acc.get? size) := by
  unfold Accumulator.getChecked? get?
  cases hp : acc.place? size with
  | none => rfl
  | some place =>
    obtain ⟨r, hr, -⟩ := h.place?_eq_some.mp hp
    simp [hr]

end Accumulator

namespace Join

/-- Merges a row, and stops where it has no size cell although it is long enough, or where the
merge stops. -/
def joinRowChecked? (number : Text → Option Nat) (columns : ColumnMap) (kind : TableKind)
    (width sizeColumn : Nat) (state : JoinState) (row : List Text) : Option JoinState :=
  if row.length < width then some { state with stats.skipped := state.stats.skipped + 1 }
  else match row[sizeColumn]? with
    | none => none
    | some cell =>
      if (Text.trim cell).isEmpty then
        some { state with stats.skipped := state.stats.skipped + 1 }
      else
        (state.accumulator.mergeChecked? (rowPartial number columns kind (Text.trim cell) row)).map
          fun accumulator =>
            { accumulator, stats := { state.stats with rows := state.stats.rows + 1 } }

/-- Merges the rows of a table, and stops where a table of some kind has no column for sizes. -/
def joinTableChecked? (policies : Policies) (state : JoinState) (table : Table) :
    Option JoinState :=
  let columns := ColumnMap.ofHeaders policies.header table.headers
  let counted := { state with stats.tables := state.stats.tables + 1 }
  match TableKind.ofColumns? columns with
  | none => some { counted with stats.ignored := counted.stats.ignored + 1 }
  | some kind =>
    match columns .size with
    | none => none
    | some sizeColumn =>
      table.rows.foldlM
        (joinRowChecked? policies.number columns kind table.headers.length sizeColumn) counted

theorem foldlM_eq_some_foldl {α β : Type} {P : β → Prop} {f : β → α → Option β} {g : β → α → β}
    (hf : ∀ b a, P b → f b a = some (g b a)) (hg : ∀ b a, P b → P (g b a)) (l : List α) {b : β}
    (hb : P b) : l.foldlM f b = some (l.foldl g b) := by
  induction l generalizing b with
  | nil => rfl
  | cons a rest ih =>
    rw [List.foldlM_cons, hf b a hb]
    exact ih (hg b a hb)

section Row

variable (number : Text → Option Nat) (columns : ColumnMap) (kind : TableKind) {width column : Nat}

theorem joinRowChecked?_eq (hc : column < width) {state : JoinState}
    (h : state.accumulator.Reachable) (row : List Text) :
    joinRowChecked? number columns kind width column state row =
      some (joinRow number columns kind width column state row) := by
  unfold joinRowChecked? joinRow rowSize?
  by_cases hw : row.length < width
  · rw [if_pos hw, if_pos hw]
  · have hr : row[column]? = some row[column] := List.getElem?_eq_getElem (by omega)
    rw [if_neg hw, if_neg hw, hr]
    by_cases he : (Text.trim row[column]).isEmpty
    · simp only [if_pos he]
    · simp only [if_neg he, h.indexed.mergeChecked?, Option.map_some]

theorem reachable_joinRow {state : JoinState} (h : state.accumulator.Reachable)
    (row : List Text) :
    (joinRow number columns kind width column state row).accumulator.Reachable := by
  unfold joinRow
  split
  · exact h
  · exact h.merge _

end Row

variable {policies : Policies} {table : Table}

/-- The column for sizes of a table of some kind lies within its headers. -/
theorem exists_size_column {kind : TableKind}
    (hk : TableKind.ofColumns? (ColumnMap.ofHeaders policies.header table.headers) = some kind) :
    ∃ column, ColumnMap.ofHeaders policies.header table.headers .size = some column ∧
      column < table.headers.length := by
  obtain ⟨hs, -, -⟩ := TableKind.ofColumns?_eq_some hk
  obtain ⟨column, hc⟩ := Option.isSome_iff_exists.mp hs
  refine ⟨column, hc, ?_⟩
  rw [ColumnMap.ofHeaders_apply] at hc
  exact LiveRow.lastColumn?_lt hc

theorem joinTableChecked?_eq {state : JoinState} (h : state.accumulator.Reachable)
    (policies : Policies) (table : Table) :
    joinTableChecked? policies state table = some (joinTable policies state table) := by
  cases hk : TableKind.ofColumns? (ColumnMap.ofHeaders policies.header table.headers) with
  | none => simp only [joinTableChecked?, joinTable, hk]
  | some kind =>
    obtain ⟨column, hc, hw⟩ := exists_size_column hk
    simp only [joinTableChecked?, joinTable, hk, hc]
    -- each row finds the accumulator reachable and leaves it so
    exact foldlM_eq_some_foldl (P := fun state => state.accumulator.Reachable)
      (fun _ row hs => joinRowChecked?_eq _ _ _ hw hs row)
      (fun _ row hs => reachable_joinRow _ _ _ hs row) table.rows h

/-- A whole join from nothing, with any policies, does not stop. -/
theorem joinTablesChecked?_eq (policies : Policies) (tables : List Table) :
    tables.foldlM (joinTableChecked? policies) .initial = some (joinTables policies tables) :=
  foldlM_eq_some_foldl (P := fun state => state.accumulator.Reachable)
    (fun _ table hs => joinTableChecked?_eq hs policies table)
    (fun _ table hs => reachable_joinTable hs policies table) tables .start

theorem rows_add_skipped_foldl_step (rows : List (List Text)) (state : JoinState) :
    (rows.foldl (LiveRow.step policies table) state).stats.rows +
        (rows.foldl (LiveRow.step policies table) state).stats.skipped =
      state.stats.rows + state.stats.skipped + rows.length := by
  have hl := List.length_eq_countP_add_countP (LiveRow.isLive policies.header table) (l := rows)
  simp only [Bool.not_eq_true, Bool.decide_eq_false] at hl
  rw [stats_foldl_step, hl]
  simp only [JoinStats.add]
  omega

/-- With all its checks a join does the same, from nothing and into any reachable accumulator, which
it leaves reachable: each table is counted as ignored or has a column for sizes that every row of
full width reaches, and then each of its rows is counted. -/
theorem unhindered_by_checks (policies : Policies) :
    (∀ tables : List Table,
      tables.foldlM (joinTableChecked? policies) .initial = some (joinTables policies tables)) ∧
    ∀ (state : JoinState) (table : Table), state.accumulator.Reachable →
      joinTableChecked? policies state table = some (joinTable policies state table) ∧
      (joinTable policies state table).accumulator.Reachable ∧
      (∀ size, state.accumulator.getChecked? size = some (state.accumulator.get? size)) ∧
      (TableKind.ofColumns? (ColumnMap.ofHeaders policies.header table.headers) = none →
        (joinTable policies state table).stats.ignored = state.stats.ignored + 1) ∧
      ∀ kind, TableKind.ofColumns? (ColumnMap.ofHeaders policies.header table.headers) = some kind →
        (∃ column, ColumnMap.ofHeaders policies.header table.headers .size = some column ∧
          ∀ row ∈ table.rows, table.headers.length ≤ row.length → column < row.length) ∧
        (joinTable policies state table).stats.rows +
            (joinTable policies state table).stats.skipped =
          state.stats.rows + state.stats.skipped + table.rows.length := by
  refine ⟨joinTablesChecked?_eq policies, fun state table h => ⟨?_, ?_, ?_, ?_, ?_⟩⟩
  · exact joinTableChecked?_eq h policies table
  · exact reachable_joinTable h policies table
  · exact h.indexed.getChecked?
  · intro hk
    rw [joinTable_of_none hk]
  · intro kind hk
    obtain ⟨column, hc, hl⟩ := exists_size_column hk
    refine ⟨⟨column, hc, fun row _ hw => Nat.lt_of_lt_of_le hl hw⟩, ?_⟩
    rw [joinTable_of_kind hk, rows_add_skipped_foldl_step]

theorem unhindered_by_checks_ragged_rows :
    joinTableChecked? .standard
        (joinTables .standard [⟨["Size".toList, "RAM".toList], [[['A'], ['8']]]⟩])
        ⟨["vCPU".toList, [], "Size".toList, "size".toList],
          [[['2']], [['4'], [], ['B'], ['A']], [['4'], [], ['B'], [' ']],
            [['1'], [], ['B'], ['C'], ['9']]]⟩ =
      some (joinTable .standard
        (joinTables .standard [⟨["Size".toList, "RAM".toList], [[['A'], ['8']]]⟩])
        ⟨["vCPU".toList, [], "Size".toList, "size".toList],
          [[['2']], [['4'], [], ['B'], ['A']], [['4'], [], ['B'], [' ']],
            [['1'], [], ['B'], ['C'], ['9']]]⟩) :=
  ((unhindered_by_checks .standard).2 _ _ (reachable_joinTables .standard _)).1

end Join
end InstanceCatalog
