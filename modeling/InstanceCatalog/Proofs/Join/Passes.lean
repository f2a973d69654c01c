import InstanceCatalog.Proofs.Join.Columns
import InstanceCatalog.Proofs.Join.Reachable

namespace InstanceCatalog
namespace Partial

def isComplete (p : Partial) : Bool := p.vcpu.isSome && p.memory.isSome && p.network.isSome

theorem map_size_complete? (p : Partial) :
    p.complete?.map Record.size = if p.isComplete then some p.size else none := by
  obtain ⟨size, vcpu, memory, network⟩ := p
  cases vcpu <;> cases memory <;> cases network <;> rfl

theorem isComplete_update {p : Partial} (h : p.isComplete) (newer : Partial) :
    (p.update newer).isComplete := by
  obtain ⟨hv, hm, hn⟩ := isSome_update p newer
  simp only [isComplete, Bool.and_eq_true] at h ⊢
  exact ⟨⟨hv h.1.1, hm h.1.2⟩, hn h.2⟩

def without (fields : List Field) (p : Partial) : Partial where
  size := p.size
  vcpu := if .vcpu ∈ fields then none else p.vcpu
  memory := if .memory ∈ fields then none else p.memory
  network := if .network ∈ fields then none else p.network

/-- What one of two partials is silent on, the other one says. -/
theorem update_without {fields others : List Field} (h : fields.Disjoint others) (p : Partial) :
    (p.without fields).update (p.without others) = p := by
  have hc (field : Field) (count : Option Nat) : (if field ∈ others then none else count).or
      (if field ∈ fields then none else count) = count := by
    by_cases ho : field ∈ others
    · rw [if_pos ho, if_neg fun hf => h hf ho, Option.none_or]
    · rw [if_neg ho]
      split
      · exact Option.or_none
      · exact Option.or_self
  simp only [without, update, hc]

theorem lastCount_map {f : Partial → Partial} (hf : ∀ p, (f p).size = p.size)
    (count : Partial → Option Nat) (size : Text) (partials : List Partial) :
    lastCount count size (partials.map f) = lastCount (count ∘ f) size partials := by
  have hs : ((fun p : Partial => decide (p.size = size)) ∘ f) = fun p => decide (p.size = size) := by
    funext p
    rw [Function.comp_apply, hf]
  rw [lastCount, List.filter_map, List.filterMap_map, hs, lastCount]

theorem lastCount_ite (c : Prop) [Decidable c] (count : Partial → Option Nat) (size : Text)
    (partials : List Partial) :
    lastCount (fun p => if c then none else count p) size partials =
      if c then none else lastCount count size partials := by
  by_cases h : c
  · simp only [if_pos h]
    rw [lastCount, List.filterMap_eq_nil_iff.mpr fun _ _ => rfl]
    rfl
  · simp only [if_neg h]

theorem gathered_map_without (fields : List Field) (partials : List Partial) (size : Text) :
    gathered (partials.map (without fields)) size = (gathered partials size).without fields := by
  have hf (p : Partial) : (p.without fields).size = p.size := rfl
  simp only [gathered, without, lastCount_map hf, Function.comp_def, lastCount_ite]

theorem map_size_map_without (fields : List Field) (partials : List Partial) :
    (partials.map (without fields)).map Partial.size = partials.map Partial.size := by
  rw [List.map_map]
  rfl

end Partial

namespace Accumulator

/-- A record is emitted when all counts of its size have been seen. -/
theorem map_size_finish (partials : List Partial) :
    (empty.mergeAll partials).finish.map Record.size =
      (Partial.sizes partials).filter fun size => (Partial.gathered partials size).isComplete := by
  rw [finish, List.map_filterMap, records_mergeAll, List.filterMap_map,
    ← List.filterMap_eq_filter]
  apply List.filterMap_congr
  intro size _
  exact Partial.map_size_complete? _

/-- Later merges complete more sizes and add sizes at the end. -/
theorem map_size_finish_sublist (earlier later : List Partial) :
    ((empty.mergeAll earlier).finish.map Record.size).Sublist
      ((empty.mergeAll (earlier ++ later)).finish.map Record.size) := by
  rw [map_size_finish, map_size_finish]
  -- the old sizes that are complete stay complete, and the new sizes come after them
  have hc : ((Partial.sizes earlier).filter fun size =>
      (Partial.gathered earlier size).isComplete).Sublist ((Partial.sizes earlier).filter fun size =>
        (Partial.gathered (earlier ++ later) size).isComplete) := by
    apply List.monotone_filter_right
    intro size h
    rw [Partial.gathered_append]
    exact Partial.isComplete_update h _
  apply hc.trans
  apply List.Sublist.filter
  rw [Partial.sizes_append]
  exact List.sublist_append_left _ _

variable {acc : Accumulator}

theorem Reachable.mergeAll_mergeAll (h : acc.Reachable) (partials : List Partial) :
    (acc.mergeAll partials).mergeAll partials = acc.mergeAll partials := by
  rw [← mergeAll_append]
  apply h.mergeAll_congr
  · exact Partial.sizes_append_of_subset (List.Subset.refl _)
  · intro size
    rw [Partial.gathered_append]
    simp only [Partial.update, Partial.gathered, Option.or_self]

/-- Two passes that are silent on different fields do what one pass over all counts does: the first
puts the sizes in order, and the second says what the first leaves out. -/
theorem Reachable.mergeAll_without (h : acc.Reachable) {fields others : List Field}
    (hd : fields.Disjoint others) (partials : List Partial) :
    (acc.mergeAll (partials.map (Partial.without fields))).mergeAll
      (partials.map (Partial.without others)) = acc.mergeAll partials := by
  rw [← mergeAll_append]
  apply h.mergeAll_congr
  · have hs : (partials.map (Partial.without others)).map Partial.size ⊆
        (partials.map (Partial.without fields)).map Partial.size := by
      rw [Partial.map_size_map_without, Partial.map_size_map_without]
      exact List.Subset.refl _
    rw [Partial.sizes_append_of_subset hs, Partial.sizes, Partial.map_size_map_without,
      Partial.sizes]
  · intro size
    rw [Partial.gathered_append, Partial.gathered_map_without, Partial.gathered_map_without,
      Partial.update_without hd]

end Accumulator

/-- The table with another text for every header that means one of some fields. -/
def Table.hide (header : Text → Header) (fields : List Field) (text : Text) (table : Table) :
    Table :=
  { table with headers := table.headers.map fun title =>
      if (header title).field? ∈ fields.map some then text else title }

namespace LiveRow

variable {header : Text → Header} {text : Text}

theorem lastColumn?_hide (ht : (header text).field? = none) (fields : List Field) (table : Table)
    (field : Field) :
    lastColumn? header (table.hide header fields text).headers field =
      if field ∈ fields then none else lastColumn? header table.headers field := by
  have hf (title : Text) : (header (if (header title).field? ∈ fields.map some then text
      else title)).field? = some field ↔ field ∉ fields ∧ (header title).field? = some field := by
    by_cases hm : (header title).field? ∈ fields.map some
    · rw [if_pos hm, ht]
      simp only [reduceCtorEq, false_iff, not_and]
      intro hn he
      rw [he] at hm
      exact hn (by simpa using hm)
    · rw [if_neg hm]
      constructor
      · intro he
        rw [he] at hm
        exact ⟨by simpa using hm, he⟩
      · exact And.right
  unfold lastColumn? Table.hide
  rw [List.zipIdx_map, List.filter_map, List.map_map]
  simp only [Function.comp_def, Prod.map, hf, id_eq]
  by_cases hm : field ∈ fields <;> simp [hm]

theorem cell?_hide (ht : (header text).field? = none) (fields : List Field) (table : Table)
    (row : List Text) (field : Field) :
    cell? header (table.hide header fields text) row field =
      if field ∈ fields then none else cell? header table row field := by
  unfold cell?
  rw [lastColumn?_hide ht]
  by_cases hm : field ∈ fields
  · rw [if_pos hm, if_pos hm]
    rfl
  · rw [if_neg hm, if_neg hm]

theorem has_hide (ht : (header text).field? = none) (fields : List Field) (table : Table)
    (field : Field) :
    (ColumnMap.ofHeaders header (table.hide header fields text).headers).has field =
      if field ∈ fields then false else (ColumnMap.ofHeaders header table.headers).has field := by
  rw [ColumnMap.has, ColumnMap.ofHeaders_apply, lastColumn?_hide ht, ColumnMap.has,
    ColumnMap.ofHeaders_apply]
  split <;> rfl

variable {table : Table}

theorem ofColumns?_hide_network (ht : (header text).field? = none)
    (hk : TableKind.ofColumns? (ColumnMap.ofHeaders header table.headers) = some .combined) :
    TableKind.ofColumns? (ColumnMap.ofHeaders header
      (table.hide header [.network] text).headers) = some .basics := by
  obtain ⟨hs, hb, -⟩ := TableKind.ofColumns?_eq_some hk
  change true = _ at hb
  simp [TableKind.ofColumns?, has_hide ht, hs, ← hb]

theorem ofColumns?_hide_basics (ht : (header text).field? = none)
    (hk : TableKind.ofColumns? (ColumnMap.ofHeaders header table.headers) = some .combined) :
    TableKind.ofColumns? (ColumnMap.ofHeaders header
      (table.hide header [.vcpu, .memory] text).headers) = some .network := by
  obtain ⟨hs, -, hn⟩ := TableKind.ofColumns?_eq_some hk
  change true = _ at hn
  simp [TableKind.ofColumns?, has_hide ht, hs, ← hn]

/-- When headers are hidden and the table is still of some kind, the same rows are live and they
say nothing of the hidden fields. -/
theorem ofTable_hide {policies : Policies} (ht : (policies.header text).field? = none)
    {fields : List Field} (hs : .size ∉ fields)
    (hk : (TableKind.ofColumns? (ColumnMap.ofHeaders policies.header table.headers)).isSome)
    (hh : (TableKind.ofColumns? (ColumnMap.ofHeaders policies.header
      (table.hide policies.header fields text).headers)).isSome) :
    ofTable policies (table.hide policies.header fields text) =
      (ofTable policies table).map (Partial.without fields) := by
  have hz (row : List Text) : size policies.header (table.hide policies.header fields text) row =
      size policies.header table row := by
    rw [size, size, cell?_hide ht, if_neg hs]
  have hl : isLive policies.header (table.hide policies.header fields text) =
      isLive policies.header table := by
    funext row
    rw [isLive_of_kind hk, isLive_of_kind hh, hz]
    simp only [Table.hide, List.length_map]
  have hc (row : List Text) (field : Field) :
      (cell? policies.header (table.hide policies.header fields text) row field).bind
        policies.number = if field ∈ fields then none
          else (cell? policies.header table row field).bind policies.number := by
    rw [cell?_hide ht]
    split <;> rfl
  unfold ofTable
  rw [hl, List.map_map]
  apply List.map_congr_left
  intro row _
  simp only [Function.comp_apply, toPartial, Partial.without, hz, hc]

end LiveRow

namespace Join

variable {policies : Policies} {table : Table} {text : Text}

/-- Two tables that hide different fields do together what the whole table does, where all three are
of some kind. -/
theorem accumulator_joinTable_hide {state : JoinState} (h : state.accumulator.Reachable)
    {fields others : List Field} (hd : fields.Disjoint others) (hs : .size ∉ fields)
    (hs' : .size ∉ others) (ht : (policies.header text).field? = none)
    (hk : (TableKind.ofColumns? (ColumnMap.ofHeaders policies.header table.headers)).isSome)
    (hf : (TableKind.ofColumns? (ColumnMap.ofHeaders policies.header
      (table.hide policies.header fields text).headers)).isSome)
    (ho : (TableKind.ofColumns? (ColumnMap.ofHeaders policies.header
      (table.hide policies.header others text).headers)).isSome) :
    (joinTable policies (joinTable policies state (table.hide policies.header fields text))
      (table.hide policies.header others text)).accumulator =
      (joinTable policies state table).accumulator := by
  rw [accumulator_joinTable, accumulator_joinTable, accumulator_joinTable,
    LiveRow.ofTable_hide ht hs hk hf, LiveRow.ofTable_hide ht hs' hk ho]
  exact h.mergeAll_without hd _

/-- A table that covers processors or memory and also network bandwidth leaves the same as two
tables: one without its headers for network bandwidth, and then one without those for processors and
memory. -/
theorem combined_table_is_two_passes (policies : Policies) (state : JoinState) (table : Table)
    (text title : Text) (h : state.accumulator.Reachable)
    (hk : TableKind.ofColumns? (ColumnMap.ofHeaders policies.header table.headers) =
      some .combined)
    (ht : policies.header text = .unrecognized title) :
    TableKind.ofColumns? (ColumnMap.ofHeaders policies.header
        (table.hide policies.header [.network] text).headers) = some .basics ∧
      TableKind.ofColumns? (ColumnMap.ofHeaders policies.header
        (table.hide policies.header [.vcpu, .memory] text).headers) = some .network ∧
      (joinTable policies state table).accumulator =
        (joinTable policies
          (joinTable policies state (table.hide policies.header [.network] text))
          (table.hide policies.header [.vcpu, .memory] text)).accumulator := by
  have hf : (policies.header text).field? = none := by rw [ht, Header.field?]
  have hb := LiveRow.ofColumns?_hide_network hf hk
  have hn := LiveRow.ofColumns?_hide_basics hf hk
  have hd : [Field.network].Disjoint [.vcpu, .memory] :=
    List.singleton_disjoint.mpr (by decide)
  refine ⟨hb, hn, ?_⟩
  apply (accumulator_joinTable_hide h hd (by decide) (by decide) hf _ _ _).symm
  · rw [hk]
    rfl
  · rw [hb]
    rfl
  · rw [hn]
    rfl

theorem combined_table_is_two_passes_repeated_size :
    (joinTable .standard .initial ⟨["vCPU".toList, "Size".toList, "Network bandwidth".toList],
        [[['2'], ['B'], ['-']], [['6']], [['-'], ['B'], ['7'], ['9']]]⟩).accumulator =
      (joinTable .standard
        (joinTable .standard .initial (Table.hide Policies.standard.header [.network] "Notes".toList
          ⟨["vCPU".toList, "Size".toList, "Network bandwidth".toList],
            [[['2'], ['B'], ['-']], [['6']], [['-'], ['B'], ['7'], ['9']]]⟩))
        (Table.hide Policies.standard.header [.vcpu, .memory] "Notes".toList
          ⟨["vCPU".toList, "Size".toList, "Network bandwidth".toList],
            [[['2'], ['B'], ['-']], [['6']], [['-'], ['B'], ['7'], ['9']]]⟩)).accumulator :=
  (combined_table_is_two_passes .standard .initial _ "Notes".toList "Notes".toList .start
    (by decide +kernel) (by decide +kernel)).2.2

/-- A table joined a second time changes nothing, and whatever tables come later, the sizes emitted
so far stay, in their order. -/
theorem repeat_idle_and_sizes_kept (policies : Policies) :
    (∀ (state : JoinState) (table : Table), state.accumulator.Reachable →
      (joinTable policies (joinTable policies state table) table).accumulator =
        (joinTable policies state table).accumulator) ∧
    ∀ tables later : List Table,
      ((joinTables policies tables).accumulator.finish.map Record.size).Sublist
        ((joinTables policies (tables ++ later)).accumulator.finish.map Record.size) := by
  constructor
  · intro state table h
    rw [accumulator_joinTable, accumulator_joinTable]
    exact h.mergeAll_mergeAll _
  · intro tables later
    rw [accumulator_joinTables, accumulator_joinTables, LiveRow.ofTables, LiveRow.ofTables,
      List.flatMap_append]
    exact Accumulator.map_size_finish_sublist _ _

theorem repeat_idle_and_sizes_kept_missing_counts :
    (joinTable .standard
        (joinTable .standard .initial
          ⟨["Size".toList, "vCPU".toList, "RAM".toList],
            [[['A'], ['2'], ['8']], [['A'], ['4'], ['-']]]⟩)
        ⟨["Size".toList, "vCPU".toList, "RAM".toList],
          [[['A'], ['2'], ['8']], [['A'], ['4'], ['-']]]⟩).accumulator =
      (joinTable .standard .initial
        ⟨["Size".toList, "vCPU".toList, "RAM".toList],
          [[['A'], ['2'], ['8']], [['A'], ['4'], ['-']]]⟩).accumulator :=
  (repeat_idle_and_sizes_kept .standard).1 _ _ .start

end Join
end InstanceCatalog
