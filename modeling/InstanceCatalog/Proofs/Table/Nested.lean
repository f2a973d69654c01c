import InstanceCatalog.Proofs.Html.Refill
import InstanceCatalog.Proofs.Table.OwnRows

namespace InstanceCatalog
namespace MarkupTable
open Html

variable {forest : Forest} {table other row cell nested e : Element} {contents : Forest}

def rowsIn (table : Element) : List Element := table.inner (IsOwnRow ·)

/-- An element stands in a table element with no other table between. -/
def IsClosestTable (table e : Element) : Prop :=
  ∃ between, e.above = table.inside ++ between ∧ ∀ level ∈ between, level.name? ≠ some "table"

theorem mem_rowsIn_iff (ht : table ∈ forest.elements) :
    row ∈ rowsIn table ↔ row ∈ forest.elements ∧ row.name = "tr" ∧ IsClosestTable table row := by
  constructor
  · intro h
    refine ⟨(Element.inner_sublist _ ht).subset h, ?_⟩
    obtain ⟨own, ho, rfl⟩ := List.mem_map.mp h
    obtain ⟨hn, hb⟩ := of_decide_eq_true (List.mem_filter.mp ho).2
    exact ⟨hn, own.above, rfl, hb⟩
  · rintro ⟨hm, hn, between, ha, hb⟩
    obtain ⟨own, ho, rfl⟩ := Forest.exists_below ht hm (ha ▸ List.prefix_append _ _)
    have hw : own.above = between := List.append_cancel_left ha
    exact List.mem_map_of_mem (List.mem_filter.mpr ⟨ho, decide_eq_true ⟨hn, hw ▸ hb⟩⟩)

/-- Of two closest tables neither stands in the other one. -/
theorem inside_prefix_of_isClosestTable (hn : other.name = "table")
    (ht : IsClosestTable table e) (ho : IsClosestTable other e) : other.inside <+: table.inside := by
  obtain ⟨between, ha, hb⟩ := ht
  obtain ⟨others, ho, -⟩ := ho
  rw [ho] at ha
  have hp : other.inside <+: table.inside ++ between := ha ▸ List.prefix_append _ _
  obtain h | ⟨last, hl⟩ := List.prefix_or_prefix_of_prefix hp (List.prefix_append _ _)
  · exact h
  · rcases eq_or_ne last [] with rfl | hne
    · exact ⟨[], by rw [← hl, List.append_nil, List.append_nil]⟩
    · -- the inner one of the two would stand between
      have hg : last.getLast? = some other.level := by
        rw [← List.getLast?_append_of_ne_nil table.inside hne, hl]
        exact List.getLast?_concat
      rw [← hl, List.append_assoc] at ha
      have hm : other.level ∈ between :=
        List.append_cancel_left ha ▸ List.mem_append_left _ (List.mem_of_getLast? hg)
      exact absurd (congrArg some hn) (hb _ hm)

theorem eq_of_inside (ht : table ∈ forest.elements) (ho : other ∈ forest.elements)
    (h : other.inside = table.inside) : other = table := by
  apply Forest.eq_of_place ht ho
  rw [← Element.map_index_inside, ← Element.map_index_inside, h]

/-- There is no more than one closest table. -/
theorem IsClosestTable.unique (hm : table ∈ forest.elements) (hn : table.name = "table")
    (hmo : other ∈ forest.elements) (hno : other.name = "table") (ht : IsClosestTable table e)
    (ho : IsClosestTable other e) : other = table := by
  have hp := inside_prefix_of_isClosestTable hno ht ho
  have hq := inside_prefix_of_isClosestTable hn ho ht
  exact eq_of_inside hm hmo (hp.eq_of_length (Nat.le_antisymm hp.length_le hq.length_le))

def isCell (e : Element) : Bool := e.above.isEmpty && (e.name == "th" || e.name == "td")

def cellsIn (row : Element) : List Element := row.inner isCell

theorem mem_cellsIn_iff (hr : row ∈ forest.elements) :
    cell ∈ cellsIn row ↔
      cell ∈ forest.elements ∧ (cell.name = "th" ∨ cell.name = "td") ∧ cell.above = row.inside := by
  constructor
  · intro h
    refine ⟨(Element.inner_sublist _ hr).subset h, ?_⟩
    obtain ⟨cell, hc, rfl⟩ := List.mem_map.mp h
    have hc := (List.mem_filter.mp hc).2
    rw [isCell, Bool.and_eq_true, List.isEmpty_iff, Bool.or_eq_true, beq_iff_eq, beq_iff_eq] at hc
    exact ⟨hc.2, by rw [Element.below, hc.1, List.append_nil]⟩
  · rintro ⟨hm, hn, ha⟩
    obtain ⟨cell, hc, rfl⟩ := Forest.exists_below hr hm (ha ▸ List.prefix_rfl)
    have hw : cell.above = [] := List.append_cancel_left (ha.trans (List.append_nil _).symm)
    have hn : cell.name = "th" ∨ cell.name = "td" := hn
    exact List.mem_map_of_mem (List.mem_filter.mpr ⟨hc, by simpa [isCell, hw] using hn⟩)

theorem filter_isCell_within (level : Level) (inner : List Element) :
    (inner.map (Element.within level)).filter isCell = [] := by
  rw [List.filter_eq_nil_iff]
  intro e he
  obtain ⟨e, -, rfl⟩ := List.mem_map.mp he
  exact Bool.false_ne_true

theorem cells_eq (index : Nat) (forest : Forest) :
    cells forest = ((forest.elementsFrom index).filter isCell).map (cellText ·.children) := by
  induction forest generalizing index with
  | nil => rfl
  | text _ next ih => exact ih (index + 1)
  | contents children next _ ih =>
    rw [cells, Forest.elementsFrom, List.filter_append, filter_isCell_within, List.nil_append]
    exact ih (index + 1)
  | element serial name children next _ ih =>
    have ht : isCell ⟨[], index, serial, name, children⟩ = (name == "th" || name == "td") := rfl
    rw [cells, Forest.elementsFrom, List.filter_cons, ht, List.filter_append, filter_isCell_within,
      List.nil_append, apply_ite (List.map _), List.map_cons, ← ih (index + 1)]

/-- The texts of a row are those of its cells. -/
theorem cellsOf_eq (row : Element) : cellsOf row = (cellsIn row).map (cellText ·.children) := by
  rw [cellsOf, cells_eq 0, cellsIn, Element.inner, List.map_map]
  rfl

section Choice
variable {α β : Type} {head body full full' : α → Bool} {rows data : List α} {header : α}

theorem choose_sublist (h : choose head body rows = some (header, data)) :
    header ∈ rows ∧ data.Sublist rows := by
  obtain ⟨hm, -, rfl⟩ | ⟨-, rfl⟩ := choose_cases h
  · refine ⟨hm, ?_⟩
    split <;> exact List.filter_sublist
  · exact ⟨List.mem_cons_self, List.sublist_cons_self header data⟩

/-- The header row and the data rows, where the header row and some data row are `full`; those that
are not are left out. -/
def chooseFull (head body full : α → Bool) (rows : List α) : Option (α × List α) :=
  (choose head body rows).bind fun chosen =>
    let data := chosen.2.filter full
    if !full chosen.1 || data.isEmpty then none else some (chosen.1, data)

theorem chooseFull_map (f : α → β) (head body full : β → Bool) (rows : List α) :
    chooseFull head body full (rows.map f) =
      (chooseFull (head <| f ·) (body <| f ·) (full <| f ·) rows).map (Prod.map f (List.map f)) := by
  simp only [chooseFull, choose_map, Option.bind_map, Option.map_bind]
  congr 1
  funext chosen
  simp only [Function.comp_apply, Prod.map_fst, Prod.map_snd, List.filter_map, List.isEmpty_map]
  rw [apply_ite (Option.map _)]
  rfl

theorem chooseFull_sublist (h : chooseFull head body full rows = some (header, data)) :
    header ∈ rows ∧ data.Sublist rows := by
  rw [chooseFull, Option.bind_eq_some_iff] at h
  obtain ⟨⟨first, others⟩, hc, h⟩ := h
  rw [Option.ite_none_left_eq_some] at h
  obtain ⟨rfl, rfl⟩ := Prod.mk.inj (Option.some.inj h.2)
  obtain ⟨hm, hs⟩ := choose_sublist hc
  exact ⟨hm, List.filter_sublist.trans hs⟩

theorem chooseFull_congr (h : ∀ row ∈ rows, full row = full' row) :
    chooseFull head body full rows = chooseFull head body full' rows := by
  rw [chooseFull, chooseFull]
  cases hc : choose head body rows with
  | none => rfl
  | some chosen =>
    obtain ⟨hm, hs⟩ := choose_sublist hc
    have hf : chosen.2.filter full = chosen.2.filter full' :=
      List.filter_congr fun row hr => h row (hs.subset hr)
    simp only [Option.bind_some, h _ hm, hf]

end Choice

def hasCells (row : Element) : Bool := !(cellsOf row).isEmpty

theorem located?_eq (table : Element) :
    located? table =
      chooseFull (StandsIn "thead" <| aroundRow table ·) (StandsIn "tbody" <| aroundRow table ·)
        hasCells (rowsOf table) := by
  rw [located?, chooseFull]
  cases choose _ _ (rowsOf table) with
  | none => rfl
  | some chosen =>
    simp only [hasCells, Bool.not_not]
    rfl

def supplied? (table : Element) : Option (Element × List Element) :=
  (located? table).map (Prod.map table.below (List.map table.below))

theorem supplied?_eq (table : Element) :
    supplied? table =
      chooseFull (StandsIn "thead" ·.above) (StandsIn "tbody" ·.above) hasCells (rowsIn table) := by
  rw [supplied?, located?_eq, rowsIn, Element.inner, chooseFull_map]
  rfl

theorem map_written_supplied? (table : Element) :
    (supplied? table).map written = (located? table).map written := by
  rw [supplied?, Option.map_map]
  congr 1
  funext rows
  exact congrArg _ List.map_map

def Supplies (row table : Element) : Prop :=
  ∃ header data, supplied? table = some (header, data) ∧ row ∈ header :: data

theorem mem_rowsIn_of_supplied {header : Element} {data : List Element}
    (h : supplied? table = some (header, data)) :
    (∀ row ∈ header :: data, row ∈ rowsIn table) ∧ data.Sublist (rowsIn table) := by
  rw [supplied?_eq] at h
  obtain ⟨hm, hs⟩ := chooseFull_sublist h
  exact ⟨List.forall_mem_cons.mpr ⟨hm, fun _ => (hs.subset ·)⟩, hs⟩

theorem passesOver_isOwnRow : Forest.PassesOver "table" (IsOwnRow ·) where
  children _ _ := rfl
  name_ne e h := by
    rw [(of_decide_eq_true h).1]
    decide
  above_ne e h := (of_decide_eq_true h).2

theorem passesOver_isCell : Forest.PassesOver "table" isCell where
  children _ _ := rfl
  name_ne e h := by
    rintro hn
    simp [isCell, hn] at h
  above_ne e h := by
    rw [isCell, Bool.and_eq_true, List.isEmpty_iff] at h
    simp [h.1]

section Refill
variable (hn : nested ∈ forest.elements) (htn : nested.name = "table")
include hn htn

theorem rowsIn_refill (ht : table ∈ forest.elements) (hp : ¬nested.place <+: table.place) :
    rowsIn (table.refill nested.place contents) =
      (rowsIn table).map (Element.refill · nested.place contents) :=
  Element.inner_refill (htn ▸ passesOver_isOwnRow) hn ht hp

theorem cellsIn_refill (hr : row ∈ forest.elements) (hp : ¬nested.place <+: row.place) :
    cellsIn (row.refill nested.place contents) =
      (cellsIn row).map (Element.refill · nested.place contents) :=
  Element.inner_refill (htn ▸ passesOver_isCell) hn hr hp

theorem hasCells_refill (hr : row ∈ forest.elements) (hp : ¬nested.place <+: row.place) :
    hasCells (row.refill nested.place contents) = hasCells row := by
  rw [hasCells, hasCells, cellsOf_eq, cellsOf_eq, cellsIn_refill hn htn hr hp, List.isEmpty_map,
    List.isEmpty_map, List.isEmpty_map]

theorem supplied?_refill (ht : table ∈ forest.elements) (hp : ¬nested.place <+: table.place) :
    supplied? (table.refill nested.place contents) =
      (supplied? table).map (Prod.map (Element.refill · nested.place contents)
        (List.map (Element.refill · nested.place contents))) := by
  have hf : ∀ row ∈ rowsIn table,
      hasCells (row.refill nested.place contents) = hasCells row := fun row hr =>
    hasCells_refill hn htn ((mem_rowsIn_iff ht).mp hr).1
      (Element.not_place_prefix_of_mem_inner (htn ▸ passesOver_isOwnRow) hn ht hp hr)
  rw [supplied?_eq, supplied?_eq, rowsIn_refill hn htn ht hp, chooseFull_map, chooseFull_congr hf]
  rfl

/-- Rows with their cells at the same places, where only the cells that an element stands in have
other texts. -/
def SameButAround (nested row row' : Element) : Prop :=
  row'.place = row.place ∧
    List.Forall₂ (fun cell cell' : Element => cell'.place = cell.place ∧
        (cell.inside <+: nested.above ∨ cellText cell'.children = cellText cell.children))
      (cellsIn row) (cellsIn row')

theorem sameButAround_refill (hr : row ∈ forest.elements) (hp : ¬nested.place <+: row.place) :
    SameButAround nested row (row.refill nested.place contents) := by
  refine ⟨rfl, ?_⟩
  rw [cellsIn_refill hn htn hr hp, List.forall₂_map_right_iff, List.forall₂_same]
  intro cell hc
  obtain ⟨hm, ht, -⟩ := (mem_cellsIn_iff hr).mp hc
  refine ⟨rfl, ?_⟩
  by_cases hx : cell.place <+: nested.place
  · left
    obtain rfl | ⟨inner, -, rfl⟩ := Forest.eq_or_below hm hn hx
    · rw [htn] at ht
      exact absurd ht (by decide)
    · exact List.prefix_append _ _
  · exact .inr (by rw [Element.refill_eq_self hx])

/-- A table that is not the nested one, and not inside it, keeps its rows and their cells. -/
theorem located_refill (ht : table ∈ forest.elements) (hne : table ≠ nested)
    (hi : ¬nested.inside <+: table.above) :
    table.refill nested.place contents ∈ (forest.refill nested.place contents).elements ∧
      (supplied? table = none → supplied? (table.refill nested.place contents) = none) ∧
      ∀ header data, supplied? table = some (header, data) →
        ∃ header' data', supplied? (table.refill nested.place contents) = some (header', data') ∧
          List.Forall₂ (SameButAround nested) (header :: data) (header' :: data') := by
  have hp : ¬nested.place <+: table.place := by
    intro hp
    obtain rfl | ⟨inner, -, rfl⟩ := Forest.eq_or_below hn ht hp
    · exact hne rfl
    · exact hi (List.prefix_append _ _)
  refine ⟨Forest.mem_refill ht fun hu => hp (hu.trans (List.prefix_append _ _)), ?_, ?_⟩
  · intro h
    rw [supplied?_refill hn htn ht hp, h, Option.map_none]
  · intro header data h
    refine ⟨_, _, by rw [supplied?_refill hn htn ht hp, h]; rfl, ?_⟩
    change List.Forall₂ _ _ ((header :: data).map (Element.refill · nested.place contents))
    rw [List.forall₂_map_right_iff, List.forall₂_same]
    intro row hr
    have hr := (mem_rowsIn_of_supplied h).1 row hr
    have hnr : ¬nested.place <+: row.place :=
      Element.not_place_prefix_of_mem_inner (htn ▸ passesOver_isOwnRow) hn ht hp hr
    exact sameButAround_refill hn htn ((mem_rowsIn_iff ht).mp hr).1 hnr

end Refill

theorem ofForest_eq_supplied (forest : Forest) :
    ofForest forest =
      (((forest.elements.filter (·.name == "table")).mergeSort
        (·.serial ≤ ·.serial)).filterMap supplied?).map written := by
  rw [ofForest_eq, List.map_filterMap, List.map_filterMap]
  exact congrArg₂ _ (funext fun table => (map_written_supplied? table).symm) rfl

/-- In every document, each row supplies no other table than the closest one around it, and each
cell no other row than the one it is a child of. With other contents in a nested table, those that
are not inside it keep their rows and cells, and all texts but those of cells that it stands in. -/
theorem nested_tables_apart (forest : Forest) :
    ofForest forest =
      (((forest.elements.filter (·.name == "table")).mergeSort
        (·.serial ≤ ·.serial)).filterMap supplied?).map written ∧
    (∀ table ∈ forest.elements, table.name = "table" → ∀ header data,
      supplied? table = some (header, data) →
        (∀ row ∈ header :: data, row ∈ forest.elements ∧ row.name = "tr" ∧
          IsClosestTable table row ∧
          ∀ other ∈ forest.elements, other.name = "table" → Supplies row other → other = table) ∧
        data.Sublist forest.elements) ∧
    (∀ row ∈ forest.elements, cellsOf row = (cellsIn row).map (cellText ·.children) ∧
      (cellsIn row).Sublist forest.elements ∧
      (∀ cell, cell ∈ cellsIn row ↔
        cell ∈ forest.elements ∧ (cell.name = "th" ∨ cell.name = "td") ∧ cell.above = row.inside) ∧
      ∀ other ∈ forest.elements, ∀ cell ∈ cellsIn row, cell ∈ cellsIn other → other = row) ∧
    ∀ nested ∈ forest.elements, nested.name = "table" → ∀ contents : Forest,
      { nested with children := contents } ∈ (forest.refill nested.place contents).elements ∧
      ∀ table ∈ forest.elements, table.name = "table" → table ≠ nested →
        ¬nested.inside <+: table.above →
        ∃ table' ∈ (forest.refill nested.place contents).elements,
          table'.place = table.place ∧ table'.name = "table" ∧ table'.serial = table.serial ∧
          (supplied? table = none → supplied? table' = none) ∧
          ∀ header data, supplied? table = some (header, data) →
            ∃ header' data', supplied? table' = some (header', data') ∧
              List.Forall₂ (SameButAround nested) (header :: data) (header' :: data') := by
  refine ⟨ofForest_eq_supplied forest, ?_, ?_, ?_⟩
  · intro table ht hn header data h
    obtain ⟨hm, hs⟩ := mem_rowsIn_of_supplied h
    refine ⟨fun row hr => ?_, hs.trans (Element.inner_sublist _ ht)⟩
    obtain ⟨hf, hr, hc⟩ := (mem_rowsIn_iff ht).mp (hm row hr)
    refine ⟨hf, hr, hc, fun other ho hno hso => ?_⟩
    obtain ⟨_, _, hso, hro⟩ := hso
    have hco := ((mem_rowsIn_iff ho).mp ((mem_rowsIn_of_supplied hso).1 row hro)).2.2
    exact IsClosestTable.unique ht hn ho hno hc hco
  · intro row hr
    refine ⟨cellsOf_eq row, Element.inner_sublist _ hr, fun cell => mem_cellsIn_iff hr, ?_⟩
    intro other ho cell hc hco
    apply eq_of_inside hr ho
    rw [← ((mem_cellsIn_iff ho).mp hco).2.2, ((mem_cellsIn_iff hr).mp hc).2.2]
  · intro nested hn htn contents
    refine ⟨Forest.mem_refill_self hn, fun table ht hnt hne hi => ?_⟩
    obtain ⟨hm, hl⟩ := located_refill hn htn ht hne hi
    exact ⟨_, hm, rfl, hnt, rfl, hl⟩

def tableInCell : Text :=
  ("<table><tr><th>Size</th><th>Notes</th></tr><tr><td>A</td><td>See <table><tr><th>Disk</th></tr>" ++
    "<tr><td>10</td></tr></table></td></tr></table>").toList

theorem tableInCell_tables : ∃ table ∈ (readDocument tableInCell).elements,
    ∃ nested ∈ (readDocument tableInCell).elements,
      table.name = "table" ∧ nested.name = "table" ∧ table ≠ nested ∧
      ¬nested.inside <+: table.above ∧ table.inside <+: nested.above ∧
      (supplied? table).isSome ∧ (supplied? nested).isSome ∧
      ∀ table' ∈ ((readDocument tableInCell).refill nested.place .nil).elements,
        table'.place = table.place → (supplied? table').map written =
          some ⟨["Size".toList, "Notes".toList], [["A".toList, "See".toList]]⟩ := by
  decide +kernel

/-- When the inner table is emptied, the outer one keeps its rows, and of the texts only that
around the inner table changes. -/
theorem nested_tables_apart_emptied : ∃ table nested header data table' header' data',
    table ∈ (readDocument tableInCell).elements ∧ nested ∈ (readDocument tableInCell).elements ∧
      table.inside <+: nested.above ∧ supplied? table = some (header, data) ∧
      (supplied? nested).isSome ∧ supplied? table' = some (header', data') ∧
      written (header', data') =
        ⟨["Size".toList, "Notes".toList], [["A".toList, "See".toList]]⟩ ∧
      List.Forall₂ (SameButAround nested) (header :: data) (header' :: data') := by
  obtain ⟨table, ht, nested, hn, hnt, hnn, hne, hi, hin, hs, hsn, hw⟩ := tableInCell_tables
  obtain ⟨⟨header, data⟩, hl⟩ := Option.isSome_iff_exists.mp hs
  obtain ⟨-, -, -, hframe⟩ := nested_tables_apart (readDocument tableInCell)
  obtain ⟨table', hm, hp, -, -, -, hr⟩ := (hframe nested hn hnn .nil).2 table ht hnt hne hi
  obtain ⟨header', data', hl', hf⟩ := hr header data hl
  have hw := hw table' hm hp
  rw [hl', Option.map_some, Option.some.injEq] at hw
  exact ⟨table, nested, header, data, table', header', data', ht, hn, hin, hl, hsn, hl', hw, hf⟩

end MarkupTable
end InstanceCatalog
