import InstanceCatalog.Proofs.Table.Cells
import InstanceCatalog.Proofs.Table.PipeRuns
import InstanceCatalog.Proofs.Text.Lines

namespace InstanceCatalog
namespace PipeTable

def rowLine (row : List Text) : Text := ruled (row.map fun cell => ' ' :: cell ++ [' '])

def separatorLine (width : Nat) : Text := ruled (List.replicate width "---".toList)

def render (table : Table) : List Text :=
  rowLine table.headers :: separatorLine table.headers.length :: table.rows.map rowLine

def Writable (row : List Text) : Prop :=
  row ≠ [] ∧ ∀ cell ∈ row, Text.trim cell = cell ∧ '|' ∉ cell ∧ '\n' ∉ cell

structure Renderable (table : Table) : Prop where
  headers : Writable table.headers
  rows : table.rows ≠ []
  row : ∀ row ∈ table.rows, Writable row

instance : DecidablePred Writable := fun _ => inferInstanceAs (Decidable (_ ∧ _))

instance : DecidablePred Renderable := fun table =>
  decidable_of_iff (Writable table.headers ∧ table.rows ≠ [] ∧ ∀ row ∈ table.rows, Writable row)
    ⟨fun ⟨hh, hn, hr⟩ => ⟨hh, hn, hr⟩, fun ⟨hh, hn, hr⟩ => ⟨hh, hn, hr⟩⟩

def renderAll (parts : List (Table × List Text)) : List Text :=
  parts.flatMap fun part => render part.1 ++ part.2

/-- A document of tables. An empty last line is the line feed that ends the text. -/
def document (before : List Text) (parts : List (Table × List Text)) : Text :=
  List.intercalate ['\n'] (before ++ renderAll parts)

theorem trim_padded {cell : Text} (h : Text.trim cell = cell) :
    Text.trim (' ' :: cell ++ [' ']) = cell :=
  (Text.strip_cons_concat (by rfl) cell).trans h

theorem cells_rowLine {row : List Text} (h : Writable row) : cells (rowLine row) = row := by
  have hp : ∀ piece ∈ row.map fun cell => ' ' :: cell ++ [' '], '|' ∉ piece := by
    simp only [List.mem_map]
    rintro _ ⟨cell, hc, rfl⟩
    have hb := (h.2 cell hc).2.1
    simp [hb]
  have hn : row.map (fun cell => ' ' :: cell ++ [' ']) ≠ [] := by simp [h.1]
  have hf : FilledEnds (row.map fun cell => ' ' :: cell ++ [' ']) := by
    constructor
    · simp [List.head?_map]
    · simp [List.getLast?_map]
  rw [rowLine, cells_ruled hp, inner_eq_self_iff.mpr hf, if_neg hn, List.map_map]
  refine (List.map_congr_left fun cell hc => ?_).trans (List.map_id _)
  exact trim_padded (h.2 cell hc).1

theorem cells_separatorLine {width : Nat} (h : width ≠ 0) :
    cells (separatorLine width) = List.replicate width "---".toList := by
  have hp : ∀ piece ∈ List.replicate width "---".toList, '|' ∉ piece := by
    intro piece hm
    rw [List.eq_of_mem_replicate hm]
    decide
  have hn : List.replicate width "---".toList ≠ [] := by simp [h]
  have hf : FilledEnds (List.replicate width "---".toList) := by
    constructor
    · simp [List.head?_replicate, h]
    · simp [List.getLast?_replicate, h]
  have ht : Text.trim "---".toList = "---".toList := by decide
  rw [separatorLine, cells_ruled hp, inner_eq_self_iff.mpr hf, if_neg hn, List.map_replicate, ht]

theorem isSeparator_separatorLine {width : Nat} (h : width ≠ 0) :
    IsSeparator (separatorLine width) := by
  rw [IsSeparator, cells_separatorLine h]
  constructor
  · exact ⟨_, List.mem_replicate.mpr ⟨h, rfl⟩, by decide⟩
  · intro cell hm
    rw [List.eq_of_mem_replicate hm]
    simp

/-- Only the line after the header row is taken for a separator. -/
theorem runTable?_render {table : Table} (h : Renderable table) :
    runTable? (render table) = some table := by
  have hw : table.headers.length ≠ 0 := by simpa using h.headers.1
  have hs := isSeparator_separatorLine hw
  have hr : (table.rows.map rowLine).map cells = table.rows := by
    rw [List.map_map]
    refine (List.map_congr_left fun row hm => ?_).trans (List.map_id _)
    exact cells_rowLine (h.row row hm)
  obtain ⟨row, rows, he⟩ := List.exists_cons_of_ne_nil h.rows
  rw [he, List.map_cons] at hr
  rw [runTable?, render, withoutSeparator, if_pos hs, he, List.map_cons]
  simp only [hr, ← he, cells_rowLine h.headers]

theorem exists_ruled_of_mem_render {table : Table} {line : Text} (h : line ∈ render table) :
    ∃ pieces, line = ruled pieces := by
  rcases List.mem_cons.mp h with rfl | h
  · exact ⟨_, rfl⟩
  · rcases List.mem_cons.mp h with rfl | h
    · exact ⟨_, rfl⟩
    · obtain ⟨row, -, rfl⟩ := List.mem_map.mp h
      exact ⟨_, rfl⟩

theorem isPipeLine_of_mem_render {table : Table} {line : Text} (h : line ∈ render table) :
    isPipeLine line = true := by
  obtain ⟨pieces, rfl⟩ := exists_ruled_of_mem_render h
  rfl

/-- A line of a table is not empty and ends in no return. -/
theorem ends_of_mem_render {table : Table} {line : Text} (h : line ∈ render table) :
    line ≠ [] ∧ line.getLast? ≠ some '\r' := by
  obtain ⟨pieces, rfl⟩ := exists_ruled_of_mem_render h
  refine ⟨List.cons_ne_nil _ _, ?_⟩
  rw [ruled, List.getLast?_concat]
  decide

theorem not_mem_ruled {c : Char} (hc : c ≠ '|') {pieces : List Text}
    (h : ∀ piece ∈ pieces, c ∉ piece) : c ∉ ruled pieces := by
  intro hm
  rcases List.mem_append.mp hm with hm | hm
  · rcases List.mem_cons.mp hm with hm | hm
    · exact hc hm
    · rcases Text.mem_intercalate hm with hm | ⟨piece, hp, hm⟩
      · exact hc hm
      · exact h piece hp hm
  · exact hc (List.mem_singleton.mp hm)

theorem lineFeed_notMem_rowLine {row : List Text} (h : Writable row) : '\n' ∉ rowLine row := by
  apply not_mem_ruled (by decide)
  simp only [List.mem_map]
  rintro _ ⟨cell, hc, rfl⟩
  have hb := (h.2 cell hc).2.2
  simp [hb]

theorem lineFeed_notMem_of_mem_render {table : Table} (h : Renderable table) {line : Text}
    (hl : line ∈ render table) : '\n' ∉ line := by
  rcases List.mem_cons.mp hl with rfl | hl
  · exact lineFeed_notMem_rowLine h.headers
  · rcases List.mem_cons.mp hl with rfl | hl
    · apply not_mem_ruled (by decide)
      intro piece hp
      rw [List.eq_of_mem_replicate hp]
      decide
    · obtain ⟨row, hr, rfl⟩ := List.mem_map.mp hl
      exact lineFeed_notMem_rowLine (h.row row hr)

def Gap (lines : List Text) : Prop := ∀ line ∈ lines, isPipeLine line = false ∧ '\n' ∉ line

instance : DecidablePred Gap := fun lines =>
  inferInstanceAs (Decidable (∀ line ∈ lines, isPipeLine line = false ∧ '\n' ∉ line))

theorem isPipeLine_of_prefix {line piece : Text} (h : line <+: piece)
    (hp : isPipeLine piece = false) : isPipeLine line = false := by
  rw [isPipeLine, beq_eq_false_iff_ne] at hp ⊢
  intro hl
  obtain ⟨rest, rfl⟩ := h
  exact hp (by rw [List.head?_append, hl, Option.some_or])

/-- What follows a table does not go on with its run, if a gap stands before the next table. -/
theorem isPipeLine_of_head?_linesOfPieces {gap : List Text} {parts : List (Table × List Text)}
    (hgap : Gap gap) (hn : gap = [] → parts = []) {line : Text}
    (h : line ∈ (Text.linesOfPieces (gap ++ renderAll parts)).head?) : isPipeLine line = false := by
  cases gap with
  | nil =>
    rw [hn rfl] at h
    cases h
  | cons first rest =>
    rw [List.cons_append] at h
    rcases Text.linesOfPieces_cons_cases first (rest ++ renderAll parts) with hc | ⟨_, hc, hf⟩
    · rw [hc] at h
      cases h
    · rw [hc] at h
      obtain rfl := Option.some.inj h
      exact isPipeLine_of_prefix hf (hgap first List.mem_cons_self).1

theorem linesOfPieces_renderAll_cons (before : List Text) (part : Table × List Text)
    (parts : List (Table × List Text)) :
    Text.linesOfPieces (before ++ renderAll (part :: parts)) =
      before.map Text.dropReturn ++ render part.1 ++
        Text.linesOfPieces (part.2 ++ renderAll parts) := by
  have hn : render part.1 ++ (part.2 ++ renderAll parts) ≠ [] := List.cons_ne_nil _ _
  rw [renderAll, List.flatMap_cons, ← renderAll, List.append_assoc,
    Text.linesOfPieces_append before hn,
    Text.linesOfPieces_append_of_ends fun _ => ends_of_mem_render, List.append_assoc]

/-- The runs of pipe lines in a document of tables are the lines of each table. -/
theorem maximalRuns_renderAll {before : List Text} {parts : List (Table × List Text)}
    (hb : Gap before) (hp : ∀ part ∈ parts, Gap part.2)
    (hg : ∀ part ∈ parts.dropLast, part.2 ≠ []) :
    MaximalRuns (Text.linesOfPieces (before ++ renderAll parts))
      (parts.map fun part => render part.1) := by
  induction parts generalizing before with
  | nil =>
    apply MaximalRuns.gap
    intro line hl
    obtain ⟨piece, hm, hc⟩ := Text.exists_of_mem_linesOfPieces hl
    rw [renderAll, List.flatMap_nil, List.append_nil] at hm
    exact isPipeLine_of_prefix hc (hb piece hm).1
  | cons part parts ih =>
    obtain ⟨hgap, hp⟩ := List.forall_mem_cons.mp hp
    -- nothing needs to follow the last table, but a line of a gap follows every other one
    have hn : part.2 = [] → parts = [] := by
      intro he
      cases parts with
      | nil => rfl
      | cons next rest => exact absurd he (hg part List.mem_cons_self)
    have hr := ih hgap hp fun other ho => hg other (by
      cases parts with
      | nil => cases ho
      | cons next rest => exact List.mem_cons_of_mem _ ho)
    rw [linesOfPieces_renderAll_cons]
    refine .run ?_ (List.cons_ne_nil _ _) (fun _ => isPipeLine_of_mem_render)
      (fun _ => isPipeLine_of_head?_linesOfPieces hgap hn) hr
    intro line hm
    obtain ⟨piece, hd, rfl⟩ := List.mem_map.mp hm
    exact isPipeLine_of_prefix (Text.dropReturn_prefix piece) (hb piece hd).1

/-- Reading a document of tables, with other lines before, between and after them, yields these
tables in order and then no more. -/
theorem yields_renderAll_iff {before : List Text} {parts : List (Table × List Text)}
    (hb : Gap before) (hp : ∀ part ∈ parts, Renderable part.1 ∧ Gap part.2)
    (hg : ∀ part ∈ parts.dropLast, part.2 ≠ []) :
    tables (document before parts) = parts.map (·.1) ∧
      ∀ found, Yields (Text.lines (document before parts)) found ↔ found = parts.map (·.1) := by
  have hl : Text.lines (document before parts) =
      Text.linesOfPieces (before ++ renderAll parts) := by
    apply Text.lines_intercalate
    intro line hm
    rcases List.mem_append.mp hm with hm | hm
    · exact (hb line hm).2
    · obtain ⟨part, hpart, hm⟩ := List.mem_flatMap.mp hm
      rcases List.mem_append.mp hm with hm | hm
      · exact lineFeed_notMem_of_mem_render (hp part hpart).1 hm
      · exact ((hp part hpart).2 line hm).2
  have hr := maximalRuns_renderAll hb (fun part hm => (hp part hm).2) hg
  have ht : (parts.map fun part => render part.1).filterMap runTable? = parts.map (·.1) := by
    rw [List.filterMap_map, ← List.filterMap_eq_map]
    apply List.filterMap_congr
    intro part hm
    simp only [Function.comp_apply]
    exact runTable?_render (hp part hm).1
  have hy := hr.yields
  rw [ht] at hy
  refine ⟨?_, fun found => ?_⟩
  · rw [tables, hl, ← hr.eq_runs, ← ht]
    exact congrArg (List.filterMap · _) (funext ofRun?_trimEnd)
  · rw [hl]
    exact ⟨hy.unique, fun he => he ▸ hy⟩

/-- Empty cells at both ends, a data row of dashes and rows of other widths are read as written. -/
theorem yields_renderAll_iff_dashes :
    (∀ part ∈ [((⟨[[], "a".toList], [["--".toList], [[]]]⟩ : Table), [[]]),
        (⟨["x".toList], [["1".toList, [], "2".toList]]⟩, [])], Renderable part.1 ∧ Gap part.2) ∧
      tables "|  | a |\n|---|---|\n| -- |\n|  |\n\n| x |\n|---|\n| 1 |  | 2 |".toList =
        [⟨[[], "a".toList], [["--".toList], [[]]]⟩,
          ⟨["x".toList], [["1".toList, [], "2".toList]]⟩] := by
  have hp : ∀ part ∈ [((⟨[[], "a".toList], [["--".toList], [[]]]⟩ : Table), [[]]),
      (⟨["x".toList], [["1".toList, [], "2".toList]]⟩, [])], Renderable part.1 ∧ Gap part.2 := by
    decide +kernel
  have hb : Gap [] := by decide
  obtain ⟨ht, -⟩ := yields_renderAll_iff hb hp (by decide)
  exact ⟨hp, ht⟩

end PipeTable
end InstanceCatalog
