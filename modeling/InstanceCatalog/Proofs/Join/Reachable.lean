import InstanceCatalog.Proofs.Join.History
import InstanceCatalog.Proofs.Join.LiveRow

namespace InstanceCatalog
namespace Partial

/-- Later partials add the sizes that the earlier ones do not have. -/
theorem sizes_append (earlier later : List Partial) :
    sizes (earlier ++ later) =
      sizes earlier ++ (sizes later).filter (· ∉ earlier.map Partial.size) := by
  -- from the right, since a size is added where it is first seen
  induction later using List.reverseRecOn with
  | nil =>
    rw [List.append_nil]
    exact (List.append_nil _).symm
  | append_singleton later p ih =>
    have hm : p.size ∈ (earlier ++ later).map Partial.size ↔
        p.size ∈ earlier.map Partial.size ∨ p.size ∈ later.map Partial.size := by
      rw [List.map_append, List.mem_append]
    rw [← List.append_assoc, sizes_append_singleton, sizes_append_singleton, ih]
    by_cases hl : p.size ∈ later.map Partial.size
    · rw [if_pos (hm.mpr (.inr hl)), if_pos hl]
    · rw [if_neg hl, List.filter_append]
      by_cases he : p.size ∈ earlier.map Partial.size
      · rw [if_pos (hm.mpr (.inl he)), List.filter_cons_of_neg (by simpa using he),
          List.filter_nil, List.append_nil]
      · rw [if_neg fun h => (hm.mp h).elim he hl, List.filter_cons_of_pos (by simpa using he),
          List.filter_nil, List.append_assoc]

theorem sizes_append_of_subset {earlier later : List Partial}
    (h : later.map Partial.size ⊆ earlier.map Partial.size) :
    sizes (earlier ++ later) = sizes earlier := by
  have hn : (sizes later).filter (· ∉ earlier.map Partial.size) = [] := by
    apply List.filter_eq_nil_iff.mpr
    intro size hs
    simpa using h (mem_sizes.mp hs)
  rw [sizes_append, hn, List.append_nil]

/-- What later partials say of a size updates what the earlier ones say. -/
theorem gathered_append (earlier later : List Partial) (size : Text) :
    gathered (earlier ++ later) size =
      (gathered earlier size).update (gathered later size) := by
  simp only [gathered, lastCount_append, update]

end Partial

attribute [ext] Accumulator

namespace Accumulator

/-- What merges can make of the empty accumulator. -/
inductive Reachable : Accumulator → Prop
  | start : Reachable empty
  | merge {acc : Accumulator} (reached : Reachable acc) (p : Partial) : Reachable (acc.merge p)

variable {acc : Accumulator}

theorem Reachable.mergeAll (h : acc.Reachable) (partials : List Partial) :
    (acc.mergeAll partials).Reachable := by
  induction partials generalizing acc with
  | nil => exact h
  | cons p rest ih => exact ih (h.merge p)

theorem Reachable.exists_mergeAll (h : acc.Reachable) :
    ∃ partials, empty.mergeAll partials = acc := by
  induction h with
  | start => exact ⟨[], rfl⟩
  | merge _ p ih =>
    obtain ⟨partials, rfl⟩ := ih
    exact ⟨partials ++ [p], mergeAll_append_singleton _ _ _⟩

theorem Reachable.indexed (h : acc.Reachable) : acc.Indexed := by
  induction h with
  | start => exact indexed_empty
  | merge _ p ih => exact ih.merge p

theorem place?_mergeAll_eq_none (partials : List Partial) (size : Text) :
    (empty.mergeAll partials).place? size = none ↔ size ∉ partials.map Partial.size := by
  rw [(indexed_mergeAll indexed_empty partials).place?_eq_none, map_size_mergeAll,
    Partial.mem_sizes]

/-- The index lists the sizes with their places, the newest first. -/
theorem index_mergeAll (partials : List Partial) :
    (empty.mergeAll partials).index = (Partial.sizes partials).zipIdx.reverse := by
  induction partials using List.reverseRecOn with
  | nil => rfl
  | append_singleton partials p ih =>
    have hn := place?_mergeAll_eq_none partials p.size
    rw [mergeAll_append_singleton, Partial.sizes_append_singleton]
    cases hp : (empty.mergeAll partials).place? p.size with
    | none =>
      have hl : (empty.mergeAll partials).records.length = (Partial.sizes partials).length := by
        rw [← map_size_mergeAll, List.length_map]
      rw [merge_of_new hp, if_neg (hn.mp hp), ih, hl, List.zipIdx_append, List.reverse_append,
        Nat.zero_add]
      rfl
    | some place =>
      have hm : p.size ∈ partials.map Partial.size := by
        by_contra hc
        rw [hn.mpr hc] at hp
        cases hp
      rw [merge_of_place hp, if_pos hm]
      exact ih

/-- What partials do to a reachable accumulator is decided by their sizes in order of first sight
and by what they say of each size. -/
theorem Reachable.mergeAll_congr (h : acc.Reachable) {first second : List Partial}
    (hs : Partial.sizes first = Partial.sizes second)
    (hg : ∀ size, Partial.gathered first size = Partial.gathered second size) :
    acc.mergeAll first = acc.mergeAll second := by
  obtain ⟨earlier, rfl⟩ := h.exists_mergeAll
  have hs' : Partial.sizes (earlier ++ first) = Partial.sizes (earlier ++ second) := by
    rw [Partial.sizes_append, Partial.sizes_append, hs]
  have hr : (empty.mergeAll (earlier ++ first)).records =
      (empty.mergeAll (earlier ++ second)).records := by
    rw [records_mergeAll, records_mergeAll, hs']
    apply List.map_congr_left
    intro size _
    rw [Partial.gathered_append, Partial.gathered_append, hg]
  have hi : (empty.mergeAll (earlier ++ first)).index =
      (empty.mergeAll (earlier ++ second)).index := by
    rw [index_mergeAll, index_mergeAll, hs']
  rw [← mergeAll_append, ← mergeAll_append]
  exact Accumulator.ext hr hi

end Accumulator

namespace Join

/-- A join merges, so it leaves a reachable accumulator reachable, whatever its policies. -/
theorem reachable_joinTable {state : JoinState} (h : state.accumulator.Reachable)
    (policies : Policies) (table : Table) :
    (joinTable policies state table).accumulator.Reachable := by
  rw [accumulator_joinTable]
  exact h.mergeAll _

theorem reachable_joinTables (policies : Policies) (tables : List Table) :
    (joinTables policies tables).accumulator.Reachable := by
  rw [accumulator_joinTables]
  exact Accumulator.Reachable.start.mergeAll _

end Join
end InstanceCatalog
