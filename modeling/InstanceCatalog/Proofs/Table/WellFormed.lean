import InstanceCatalog.Proofs.Table.Locate
import InstanceCatalog.Proofs.Table.OwnRows
import InstanceCatalog.Proofs.Table.Rendering
import InstanceCatalog.Proofs.Text.Words

namespace InstanceCatalog

namespace Table

def allCells (table : Table) : List Text := table.headers ++ table.rows.flatten

theorem mem_allCells {table : Table} {cell : Text} :
    cell ∈ table.allCells ↔ cell ∈ table.headers ∨ ∃ row ∈ table.rows, cell ∈ row := by
  rw [allCells, List.mem_append, List.mem_flatten]

structure WellFormed (table : Table) : Prop where
  headers : table.headers ≠ []
  rows : table.rows ≠ []
  row : ∀ row ∈ table.rows, row ≠ []
  trimmed : ∀ cell ∈ table.allCells, Text.trim cell = cell

end Table

namespace PipeTable

theorem mem_of_mem_runs {lines run : List Text} {line : Text} (hr : run ∈ runs lines)
    (hl : line ∈ run) : line ∈ lines := by
  have hf : line ∈ (runs lines).flatten := List.mem_flatten.mpr ⟨run, hr, hl⟩
  rw [(maximalRuns_runs lines).flatten_eq] at hf
  exact List.mem_of_mem_filter hf

theorem writable_cells {line : Text} (h : '\n' ∉ line) : Writable (cells line) := by
  refine ⟨?_, ?_⟩
  · rw [cells, ne_eq, List.map_eq_nil_iff]
    exact List.splitOnP_ne_nil _ _
  · intro cell hc
    obtain ⟨piece, hp, rfl⟩ := List.mem_map.mp hc
    refine ⟨Text.trim_trim piece, ?_, ?_⟩
    · exact fun hm => Text.notMem_of_mem_splitOn hp (Text.mem_of_mem_strip hm)
    · intro hm
      have hs := Text.mem_of_mem_splitOn hp (Text.mem_of_mem_strip hm)
      exact h (Text.mem_of_mem_strip (Text.mem_of_mem_strip hs))

/-- The data lines are lines of the run. -/
theorem body_sublist (lines : List Text) : (body lines).Sublist lines := by
  cases lines with
  | nil => exact .slnil
  | cons line rest =>
    rw [body]
    split
    · exact List.sublist_cons_self line rest
    · exact .refl _

theorem renderable_of_ofRun? {run : List Text} {table : Table} (h : ofRun? run = some table)
    (hl : ∀ line ∈ run, '\n' ∉ line) : Renderable table := by
  cases run with
  | nil => cases h
  | cons header rest =>
    obtain ⟨hh, hr⟩ := List.forall_mem_cons.mp hl
    simp only [ofRun?, Option.ite_none_left_eq_some, List.isEmpty_iff] at h
    obtain ⟨hn, ht⟩ := h
    obtain rfl := Option.some.inj ht
    refine ⟨writable_cells hh, by simpa using hn, ?_⟩
    intro row hm
    obtain ⟨line, hb, rfl⟩ := List.mem_map.mp hm
    exact writable_cells (hr line ((body_sublist rest).subset hb))

/-- What is read from pipe tables can be written as pipe tables again. -/
theorem renderable_of_mem_tables {document : Text} {table : Table} (h : table ∈ tables document) :
    Renderable table := by
  obtain ⟨run, hr, ht⟩ := List.mem_filterMap.mp h
  apply renderable_of_ofRun? ht
  intro line hl
  obtain ⟨whole, hw, rfl⟩ := List.mem_map.mp hl
  have hn := Text.notMem_of_mem_lines (mem_of_mem_runs hr hw)
  exact fun hc => hn ((Text.dropEndWhile_prefix _ _).subset hc)

theorem Renderable.of_mem_allCells {table : Table} (h : Renderable table) {cell : Text}
    (hc : cell ∈ table.allCells) : Text.trim cell = cell ∧ '|' ∉ cell ∧ '\n' ∉ cell := by
  rcases Table.mem_allCells.mp hc with hc | ⟨row, hr, hc⟩
  · exact h.headers.2 cell hc
  · exact (h.row row hr).2 cell hc

theorem Renderable.wellFormed {table : Table} (h : Renderable table) : table.WellFormed :=
  ⟨h.headers.1, h.rows, fun row hr => (h.row row hr).1, fun _ hc => (h.of_mem_allCells hc).1⟩

end PipeTable

namespace MarkupTable
open Html

theorem isSpaced_cellText (children : Forest) : Text.IsSpaced (cellText children) := by
  apply Text.isSpaced_intercalate
  intro word hw
  obtain ⟨text, -, hw⟩ := List.mem_flatMap.mp hw
  exact Text.isWord_of_mem_words hw

theorem isSpaced_of_mem_cells {children : Forest} {cell : Text} (h : cell ∈ cells children) :
    Text.IsSpaced cell := by
  induction children with
  | nil => cases h
  | text _ _ ih => exact ih h
  | element _ _ inner _ _ ih =>
    rw [cells] at h
    split at h
    · rcases List.mem_cons.mp h with rfl | h
      · exact isSpaced_cellText inner
      · exact ih h
    · exact ih h
  | contents _ _ _ ih => exact ih h

/-- The tables of the markup are those located from table elements. -/
theorem exists_located_of_mem_tables {document : Text} {table : Table} (h : table ∈ tables document) :
    ∃ element header data, located? element = some (header, data) ∧
      table = written (header, data) := by
  rw [tables_eq] at h
  obtain ⟨⟨header, data⟩, hl, rfl⟩ := List.mem_map.mp h
  obtain ⟨element, -, hl⟩ := List.mem_filterMap.mp hl
  exact ⟨element, header, data, hl, rfl⟩

theorem isSpaced_of_mem_tables {document : Text} {table : Table} (h : table ∈ tables document) :
    ∀ cell ∈ table.allCells, Text.IsSpaced cell := by
  obtain ⟨-, header, data, -, rfl⟩ := exists_located_of_mem_tables h
  intro cell hc
  rcases Table.mem_allCells.mp hc with hc | ⟨row, hr, hc⟩
  · exact isSpaced_of_mem_cells hc
  · obtain ⟨row, -, rfl⟩ := List.mem_map.mp hr
    exact isSpaced_of_mem_cells hc

theorem wellFormed_of_mem_tables {document : Text} {table : Table} (h : table ∈ tables document) :
    table.WellFormed := by
  have ht : ∀ cell ∈ table.allCells, Text.trim cell = cell := fun cell hc =>
    (isSpaced_of_mem_tables h cell hc).trimmed
  obtain ⟨element, header, data, hl, rfl⟩ := exists_located_of_mem_tables h
  obtain ⟨rows, -, hh, rfl, hn⟩ := located?_eq_some_iff.mp hl
  refine ⟨hh, by simpa [written] using hn, ?_, ht⟩
  intro row hr
  obtain ⟨row, hm, rfl⟩ := List.mem_map.mp hr
  simpa using (List.mem_filter.mp hm).2

end MarkupTable

namespace Table

/-- Whatever the document, a located table has a header row and data rows, and they have cells, all
of them trimmed. No cell of a pipe table holds a pipe or a line feed, and all white space in a cell
of the markup is single spaces inside. -/
theorem locate_wellFormed (document : Text) :
    (∀ table ∈ locate document, table.WellFormed) ∧
      (∀ table ∈ PipeTable.tables document, ∀ cell ∈ table.allCells, '|' ∉ cell ∧ '\n' ∉ cell) ∧
      ∀ table ∈ MarkupTable.tables document, ∀ cell ∈ table.allCells, Text.IsSpaced cell := by
  refine ⟨?_, ?_, fun _ => MarkupTable.isSpaced_of_mem_tables⟩
  · intro table ht
    rcases List.mem_append.mp ht with ht | ht
    · exact (PipeTable.renderable_of_mem_tables ht).wellFormed
    · split at ht
      · exact MarkupTable.wellFormed_of_mem_tables ht
      · cases ht
  · intro table ht cell hc
    exact ((PipeTable.renderable_of_mem_tables ht).of_mem_allCells hc).2

def unevenTables : Text :=
  ("| Size | vCPU |\r\n|---|:-:|\n|| A b\t|  |3|\n\n<table><tr><th> Size\n (new) </th></tr>" ++
    "<tr></tr><tr><td>A<b>b</b></td><td></td></tr></table>").toList

theorem locate_wellFormed_uneven :
    ∃ pipe ∈ PipeTable.tables unevenTables, ∃ markup ∈ MarkupTable.tables unevenTables,
      pipe ∈ locate unevenTables ∧ markup ∈ locate unevenTables ∧
      pipe.WellFormed ∧ markup.WellFormed ∧
      pipe.rows = [["A b".toList, [], "3".toList]] ∧
      (∀ cell ∈ pipe.allCells, '|' ∉ cell ∧ '\n' ∉ cell) ∧
      markup.headers = ["Size (new)".toList] ∧ ∀ cell ∈ markup.allCells, Text.IsSpaced cell := by
  obtain ⟨pipe, hp, hpl, hpr⟩ : ∃ pipe ∈ PipeTable.tables unevenTables,
      pipe ∈ locate unevenTables ∧ pipe.rows = [["A b".toList, [], "3".toList]] := by
    decide +kernel
  obtain ⟨markup, hm, hml, hmh⟩ : ∃ markup ∈ MarkupTable.tables unevenTables,
      markup ∈ locate unevenTables ∧ markup.headers = ["Size (new)".toList] := by
    decide +kernel
  obtain ⟨hw, hpc, hmc⟩ := locate_wellFormed unevenTables
  exact ⟨pipe, hp, markup, hm, hpl, hml, hw pipe hpl, hw markup hml, hpr, hpc pipe hp, hmh,
    hmc markup hm⟩

end Table
end InstanceCatalog
