import InstanceCatalog.Proofs.Html.Elements
import InstanceCatalog.Table.Markup
import Mathlib.Data.List.Induction

namespace InstanceCatalog
namespace MarkupTable
open Html

namespace Around

def enter (around : Around) (level : Level) : Around :=
  match level.name? with
  | some name => around.inside name
  | none => outside

def along (around : Around) (levels : List Level) : Around := levels.foldl enter around

theorem along_eq (levels : List Level) :
    outside.along levels =
      ⟨decide (StandsIn "thead" levels), decide (StandsIn "tbody" levels)⟩ := by
  -- from the inside, since only what is behind the last border of a template counts
  induction levels using List.reverseRecOn with
  | nil => simp [along, outside, not_standsIn_nil]
  | append_singleton levels level ih =>
    rw [along] at ih ⊢
    rw [List.foldl_concat, ih]
    obtain ⟨index, _ | name⟩ := level
    · simp [enter, outside, not_standsIn_concat_none]
    · simp [enter, inside, standsIn_concat_some, Bool.or_comm, Bool.beq_eq_decide_eq]

end Around

/-- Seen from inside a table: a row of that table, with no other table between. -/
def IsOwnRow (e : Element) : Prop := e.name = "tr" ∧ ∀ level ∈ e.above, level.name? ≠ some "table"

instance : DecidablePred IsOwnRow := fun _ => inferInstanceAs (Decidable (_ ∧ _))

def rowsOf (table : Element) : List Element := table.children.elements.filter (IsOwnRow ·)

def aroundRow (table row : Element) : List Level := table.inside ++ row.above

def cellsOf (row : Element) : List Text := cells row.children

def asRow (around : Around) (e : Element) : Row :=
  ⟨e.serial, around.along e.above, cellsOf e⟩

theorem isOwnRow_top {index serial : Nat} {name : String} {children : Forest} :
    IsOwnRow ⟨[], index, serial, name, children⟩ ↔ name = "tr" :=
  and_iff_left (List.forall_mem_nil _)

theorem isOwnRow_within (level : Level) (e : Element) :
    IsOwnRow (e.within level) ↔ level.name? ≠ some "table" ∧ IsOwnRow e := by
  simp only [IsOwnRow, Element.within, List.forall_mem_cons]
  exact and_left_comm

theorem filter_isOwnRow_within {level : Level} (h : level.name? ≠ some "table")
    (inner : List Element) :
    (inner.map (Element.within level)).filter (IsOwnRow ·) =
      (inner.filter (IsOwnRow ·)).map (Element.within level) := by
  rw [List.filter_map]
  congr 1
  exact List.filter_congr fun e _ => by simp [isOwnRow_within, h]

theorem filter_isOwnRow_within_table (index : Nat) (inner : List Element) :
    (inner.map (Element.within ⟨index, some "table"⟩)).filter (IsOwnRow ·) = [] := by
  rw [List.filter_eq_nil_iff]
  intro e he
  obtain ⟨e, -, rfl⟩ := List.mem_map.mp he
  simp [isOwnRow_within]

theorem map_asRow_within (around : Around) (level : Level) (inner : List Element) :
    (inner.map (Element.within level)).map (asRow around) =
      inner.map (asRow (around.enter level)) :=
  List.map_map

/-- The walk that passes over inner tables meets the own rows, in document order. -/
theorem ownRows_eq (around : Around) (index : Nat) (forest : Forest) :
    ownRows around forest =
      ((forest.elementsFrom index).filter (IsOwnRow ·)).map (asRow around) := by
  induction forest generalizing around index with
  | nil => rfl
  | text _ next ih => exact ih around (index + 1)
  | element serial name children next ihc ihn =>
    rw [ownRows, Forest.elementsFrom, ← List.cons_append, List.filter_append, List.map_append,
      ← ihn around (index + 1), List.filter_cons]
    congr 1
    -- a table hides all that is inside it, and a row may have rows inside it
    by_cases ht : name = "table"
    · simp [ht, isOwnRow_top, filter_isOwnRow_within_table]
    · have hl : (⟨index, some name⟩ : Level).name? ≠ some "table" := by simpa using ht
      have hi : ownRows (around.inside name) children = _ := ihc (around.enter ⟨index, name⟩) 0
      rw [← map_asRow_within, ← filter_isOwnRow_within hl] at hi
      by_cases hr : name = "tr"
      · subst hr
        simp [hi, isOwnRow_top, asRow, cellsOf, Around.along]
      · simp [ht, hr, hi, isOwnRow_top]
  | contents children next ihc ihn =>
    rw [ownRows, Forest.elementsFrom, List.filter_append, List.map_append, ← ihn around (index + 1),
      filter_isOwnRow_within (Option.some_ne_none _).symm, map_asRow_within, ← ihc]
    rfl

section Choice
variable {α β : Type} {head body : α → Bool} {rows data : List α} {header row : α}

/-- The header row and the data rows, by what tells that a row is in a head and in a body. -/
def choose (head body : α → Bool) (rows : List α) : Option (α × List α) :=
  match rows.filter head, rows with
  | first :: _, _ =>
    some (first, if (rows.filter body).isEmpty then rows.filter (!head ·) else rows.filter body)
  | [], first :: rest => some (first, rest)
  | [], [] => none

theorem split_eq_choose (rows : List Row) :
    split rows = choose (·.around.head) (·.around.body) rows := by
  unfold split choose
  cases rows.filter (·.around.head) <;> cases rows <;> rfl

theorem choose_map (f : α → β) (head body : β → Bool) (rows : List α) :
    choose head body (rows.map f) =
      (choose (head <| f ·) (body <| f ·) rows).map (Prod.map f (List.map f)) := by
  simp only [choose, List.filter_map, Function.comp_def, List.isEmpty_map]
  cases rows.filter (head <| f ·) with
  | cons first _ => simp [apply_ite (List.map f)]
  | nil => cases rows <;> rfl

/-- Either a row in a head is the header row, or no row is in a head and the first row is. -/
theorem choose_cases (h : choose head body rows = some (header, data)) :
    (header ∈ rows ∧ head header ∧
      data = if (rows.filter body).isEmpty then rows.filter (!head ·) else rows.filter body) ∨
    ((∀ row ∈ rows, ¬head row) ∧ rows = header :: data) := by
  unfold choose at h
  split at h
  · next first _ hf =>
    obtain ⟨rfl, rfl⟩ := Prod.mk.inj (Option.some.inj h)
    obtain ⟨hm, hh⟩ := List.mem_filter.mp (hf ▸ List.mem_cons_self)
    exact .inl ⟨hm, hh, rfl⟩
  · next first rest hf =>
    obtain ⟨rfl, rfl⟩ := Prod.mk.inj (Option.some.inj h)
    exact .inr ⟨List.filter_eq_nil_iff.mp hf, rfl⟩
  · cases h

/-- A row in a head is a data row where it is in a body as well. -/
theorem mem_data_iff (h : choose head body rows = some (header, data)) (hm : row ∈ rows)
    (hr : head row) : row ∈ data ↔ body row := by
  obtain ⟨-, -, rfl⟩ | ⟨hn, -⟩ := choose_cases h
  · split
    · next hb =>
      have hb := List.filter_eq_nil_iff.mp (List.isEmpty_iff.mp hb) row hm
      simp [hr, hb]
    · simp [hm]
  · exact absurd hr (hn row hm)

theorem header_mem_data_iff (h : choose head body rows = some (header, data)) (hn : rows.Nodup) :
    header ∈ data ↔ head header ∧ body header := by
  obtain ⟨hm, hh, -⟩ | ⟨hh, rfl⟩ := choose_cases h
  · rw [mem_data_iff h hm hh]
    exact (and_iff_right hh).symm
  · have hd := (List.nodup_cons.mp hn).1
    simp [hd, hh header List.mem_cons_self]

end Choice

def located? (table : Element) : Option (Element × List Element) :=
  match choose (StandsIn "thead" <| aroundRow table ·) (StandsIn "tbody" <| aroundRow table ·)
    (rowsOf table) with
  | none => none
  | some (header, data) =>
    let data := data.filter fun row => !(cellsOf row).isEmpty
    if (cellsOf header).isEmpty || data.isEmpty then none else some (header, data)

def written (rows : Element × List Element) : Table := ⟨cellsOf rows.1, rows.2.map cellsOf⟩

def found (around : Around) (table : Element) : Found :=
  ⟨table.serial, (rowsOf table).map (asRow (around.along table.inside))⟩

theorem filter_table_within (level : Level) (inner : List Element) :
    (inner.map (Element.within level)).filter (·.name == "table") =
      (inner.filter (·.name == "table")).map (Element.within level) :=
  List.filter_map

theorem map_found_within (around : Around) (level : Level) (inner : List Element) :
    (inner.map (Element.within level)).map (found around) =
      inner.map (found (around.enter level)) :=
  List.map_map

theorem elements_eq (around : Around) (index : Nat) (forest : Forest) :
    elements around forest =
      ((forest.elementsFrom index).filter (·.name == "table")).map (found around) := by
  induction forest generalizing around index with
  | nil => rfl
  | text _ next ih => exact ih around (index + 1)
  | element serial name children next ihc ihn =>
    rw [elements, Forest.elementsFrom, ← List.cons_append, List.filter_append, List.map_append,
      ← ihn around (index + 1), List.filter_cons, filter_table_within, apply_ite (List.map _),
      List.map_cons, map_found_within, ← ihc]
    congr 2
    rw [found, rowsOf, Forest.elements, ← ownRows_eq]
    rfl
  | contents children next ihc ihn =>
    rw [elements, Forest.elementsFrom, List.filter_append, List.map_append, ← ihn around (index + 1),
      filter_table_within, map_found_within, ← ihc]
    rfl

theorem around_asRow (table row : Element) :
    (asRow (Around.outside.along table.inside) row).around =
      ⟨decide (StandsIn "thead" (aroundRow table row)),
        decide (StandsIn "tbody" (aroundRow table row))⟩ := by
  rw [← Around.along_eq]
  exact List.foldl_append.symm

theorem ofRows?_found (table : Element) :
    ofRows? (found .outside table).rows = (located? table).map written := by
  simp only [ofRows?, found, split_eq_choose, choose_map, around_asRow, located?]
  cases choose _ _ (rowsOf table) with
  | none => rfl
  | some rows =>
    have hc : Row.cells ∘ asRow (Around.outside.along table.inside) = cellsOf := rfl
    simp only [Option.map_some, Prod.map, List.map_map, hc, List.filter_map, List.isEmpty_map]
    rw [apply_ite (Option.map written)]
    rfl

/-- The tables of a document are those located from its table elements. -/
theorem ofForest_eq (forest : Forest) :
    ofForest forest =
      (((forest.elements.filter (·.name == "table")).mergeSort
        (·.serial ≤ ·.serial)).filterMap located?).map written := by
  rw [ofForest, elements_eq .outside 0, ← List.map_mergeSort (fun _ _ _ _ => by rfl),
    List.filterMap_map, List.map_filterMap]
  exact congrArg₂ _ (funext ofRows?_found) rfl

theorem tables_eq (document : Text) :
    tables document =
      ((((readDocument document).elements.filter (·.name == "table")).mergeSort
        (·.serial ≤ ·.serial)).filterMap located?).map written :=
  ofForest_eq _

theorem located?_eq_some_iff {table header : Element} {data : List Element} :
    located? table = some (header, data) ↔
      ∃ rows, choose (StandsIn "thead" <| aroundRow table ·) (StandsIn "tbody" <| aroundRow table ·)
          (rowsOf table) = some (header, rows) ∧
        cellsOf header ≠ [] ∧ data = rows.filter (fun row => !(cellsOf row).isEmpty) ∧
        data ≠ [] := by
  rw [located?]
  cases choose (StandsIn "thead" <| aroundRow table ·) (StandsIn "tbody" <| aroundRow table ·)
    (rowsOf table) with
  | none => simp
  | some chosen =>
    obtain ⟨first, rows⟩ := chosen
    dsimp only
    rw [Option.ite_none_left_eq_some, Bool.or_eq_true, not_or, List.isEmpty_iff, List.isEmpty_iff]
    constructor
    · rintro ⟨⟨hf, hn⟩, h⟩
      obtain ⟨rfl, rfl⟩ := Prod.mk.inj (Option.some.inj h)
      exact ⟨rows, rfl, hf, rfl, hn⟩
    · rintro ⟨others, h, hf, rfl, hn⟩
      obtain ⟨rfl, rfl⟩ := Prod.mk.inj (Option.some.inj h)
      exact ⟨⟨hf, hn⟩, rfl⟩

/-- What is located comes of the choice, without the data rows that have no cells. -/
theorem choose_of_located {table header : Element} {data : List Element}
    (h : located? table = some (header, data)) :
    ∃ rows, choose (StandsIn "thead" <| aroundRow table ·) (StandsIn "tbody" <| aroundRow table ·)
        (rowsOf table) = some (header, rows) ∧
      cellsOf header ≠ [] ∧ ∀ row, row ∈ data ↔ row ∈ rows ∧ cellsOf row ≠ [] := by
  obtain ⟨rows, hc, hh, rfl, -⟩ := located?_eq_some_iff.mp h
  exact ⟨rows, hc, hh, fun row => by simp⟩

theorem nodup_rowsOf (table : Element) : (rowsOf table).Nodup :=
  (Forest.nodup_elements table.children).filter _

/-- In whatever a table is nested: its header row is read as data as well exactly where it stands
in a head and in a body, be they its own or those of a table around, and so is each row of its own
head that stands in a body. -/
theorem own_header_mem_data_iff {document : Text} {table header : Element} {data : List Element}
    (ht : table ∈ (readDocument document).elements) (hn : table.name = "table")
    (hl : located? table = some (header, data)) :
    written (header, data) ∈ tables document ∧
      (header ∈ data ↔
        StandsIn "thead" (aroundRow table header) ∧ StandsIn "tbody" (aroundRow table header)) ∧
      ∀ row ∈ rowsOf table, StandsIn "thead" row.above →
        (row ∈ data ↔ StandsIn "tbody" (aroundRow table row) ∧ cellsOf row ≠ []) := by
  obtain ⟨rows, hc, hh, hd⟩ := choose_of_located hl
  refine ⟨?_, ?_, ?_⟩
  · rw [tables_eq]
    refine List.mem_map.mpr ⟨_, List.mem_filterMap.mpr ⟨table, ?_, hl⟩, rfl⟩
    exact List.mem_mergeSort.mpr (List.mem_filter.mpr ⟨ht, by simp [hn]⟩)
  · rw [hd, and_iff_left hh, header_mem_data_iff hc (nodup_rowsOf table)]
    simp
  · intro row hr ho
    have ho : StandsIn "thead" (aroundRow table row) := ho.append _
    rw [hd, mem_data_iff hc hr (by simpa using ho)]
    simp

def nestedTables : Text :=
  ("<table><tr><td><table><thead><tr><th>Size</th></tr></thead>" ++
    "<tbody><tr><td>A</td></tr></tbody></table></td></tr></table>").toList

/-- The head of the inner table stands in the body of the outer one, and its row is read twice. -/
theorem nestedTables_inner : ∃ table ∈ (readDocument nestedTables).elements,
    table.name = "table" ∧ ∃ header data, located? table = some (header, data) ∧ header ∈ data ∧
      StandsIn "thead" (aroundRow table header) ∧ StandsIn "tbody" (aroundRow table header) := by
  obtain ⟨table, ht, hn, hs⟩ : ∃ table ∈ (readDocument nestedTables).elements,
      table.name = "table" ∧ (located? table).any fun rows => rows.1 ∈ rows.2 ∧
        StandsIn "thead" (aroundRow table rows.1) ∧ StandsIn "tbody" (aroundRow table rows.1) := by
    decide +kernel
  obtain ⟨⟨header, data⟩, hl, hs⟩ := (Option.any_eq_true _ _).mp hs
  exact ⟨table, ht, hn, header, data, hl, of_decide_eq_true hs⟩

theorem own_header_mem_data_iff_nested : ∃ table header data,
    table ∈ (readDocument nestedTables).elements ∧ table.name = "table" ∧
      located? table = some (header, data) ∧ written (header, data) ∈ tables nestedTables ∧
      header ∈ data := by
  obtain ⟨table, ht, hn, header, data, hl, -, hs⟩ := nestedTables_inner
  obtain ⟨hw, hd, -⟩ := own_header_mem_data_iff ht hn hl
  exact ⟨table, header, data, ht, hn, hl, hw, hd.mpr hs⟩

theorem own_header_read_as_data : ¬∀ document table header data,
    table ∈ (readDocument document).elements → table.name = "table" →
      located? table = some (header, data) →
      header ∉ data ∧ ∀ row ∈ data, ¬StandsIn "thead" row.above := by
  intro h
  obtain ⟨table, ht, hn, header, data, hl, hd, -⟩ := nestedTables_inner
  exact (h nestedTables table header data ht hn hl).1 hd

end MarkupTable
end InstanceCatalog
