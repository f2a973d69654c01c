import InstanceCatalog.Proofs.Join.History
import InstanceCatalog.Proofs.Join.LiveRow

namespace InstanceCatalog
namespace Partial

/-- Two sequences say the same about each size, in the same order. -/
def SameBySize (first second : List Partial) : Prop :=
  ∀ size, first.filter (·.size = size) = second.filter (·.size = size)

structure Disjoint (p q : Partial) : Prop where
  vcpu : p.vcpu = none ∨ q.vcpu = none
  memory : p.memory = none ∨ q.memory = none
  network : p.network = none ∨ q.network = none

variable {first second : List Partial}

theorem SameBySize.gathered_eq (h : SameBySize first second) (size : Text) :
    gathered first size = gathered second size := by
  unfold gathered lastCount
  rw [h size]

theorem mem_map_size {size : Text} {partials : List Partial} :
    size ∈ partials.map Partial.size ↔ partials.filter (·.size = size) ≠ [] := by
  rw [ne_eq, List.filter_eq_nil_iff, List.mem_map]
  simp

theorem SameBySize.mem_sizes_iff (h : SameBySize first second) (size : Text) :
    size ∈ sizes first ↔ size ∈ sizes second := by
  rw [mem_sizes, mem_sizes, mem_map_size, mem_map_size, h size]

theorem SameBySize.sizes_perm (h : SameBySize first second) :
    (sizes first).Perm (sizes second) := by
  apply (List.perm_ext_iff_of_nodup (nodup_sizes first) (nodup_sizes second)).mpr
  exact h.mem_sizes_iff

/-- Neighbours of different sizes can be exchanged. -/
theorem sameBySize_swap (earlier later : List Partial) {p q : Partial} (h : p.size ≠ q.size) :
    SameBySize (earlier ++ p :: q :: later) (earlier ++ q :: p :: later) := by
  intro size
  simp only [List.filter_append, List.filter_cons]
  by_cases hp : p.size = size
  · have hq : ¬ q.size = size := fun hq => h (hp.trans hq.symm)
    simp [hp, hq]
  · simp [hp]

theorem or_or_comm {a b : Option Nat} (h : a = none ∨ b = none) (c : Option Nat) :
    b.or (a.or c) = a.or (b.or c) := by
  rcases h with rfl | rfl
  · rw [Option.none_or, Option.none_or]
  · rw [Option.none_or, Option.none_or]

/-- Updates that fill different fields can be made in either order. -/
theorem update_update_comm {p q : Partial} (h : p.Disjoint q) (r : Partial) :
    (r.update p).update q = (r.update q).update p := by
  simp only [update, or_or_comm h.vcpu, or_or_comm h.memory, or_or_comm h.network]

theorem update_comm {p q : Partial} (hs : p.size = q.size) (h : p.Disjoint q) :
    p.update q = q.update p := by
  -- both are updates of the record that has only the size
  have hu := update_update_comm h ⟨p.size, none, none, none⟩
  simpa [update, hs] using hu

end Partial

namespace Accumulator

/-- Two accumulators hold the same, but for the order of their records. -/
structure Agree (acc other : Accumulator) : Prop where
  get : ∀ size, acc.get? size = other.get? size
  length : acc.length = other.length
  finish : acc.finish.Perm other.finish

variable {first second : List Partial}

theorem records_perm (h : Partial.SameBySize first second) :
    (empty.mergeAll first).records.Perm (empty.mergeAll second).records := by
  have hg : Partial.gathered first = Partial.gathered second := by
    funext size
    exact h.gathered_eq size
  rw [records_mergeAll, records_mergeAll, hg]
  exact h.sizes_perm.map _

theorem agree_mergeAll (h : Partial.SameBySize first second) :
    Agree (empty.mergeAll first) (empty.mergeAll second) where
  get size := by
    have hm : size ∈ first.map Partial.size ↔ size ∈ second.map Partial.size := by
      rw [← Partial.mem_sizes, ← Partial.mem_sizes]
      exact h.mem_sizes_iff size
    rw [get?_mergeAll, get?_mergeAll, h.gathered_eq]
    simp only [hm]
  length := (records_perm h).length_eq
  finish := (records_perm h).filterMap _

/-- The order of the records is that in which the sizes are first seen. -/
theorem finish_mergeAll_eq (h : Partial.SameBySize first second)
    (hs : Partial.sizes first = Partial.sizes second) :
    (empty.mergeAll first).finish = (empty.mergeAll second).finish := by
  have hr : (empty.mergeAll first).records = (empty.mergeAll second).records := by
    rw [records_mergeAll, records_mergeAll, hs]
    apply List.map_congr_left
    intro size _
    exact h.gathered_eq size
  rw [finish, finish, hr]

theorem merge_merge_of_place {acc : Accumulator} {p q : Partial} {place : Nat}
    (hp : acc.place? p.size = some place) (hq : acc.place? q.size = some place) :
    (acc.merge p).merge q =
      { acc with records := acc.records.modify place fun r => (r.update p).update q } := by
  -- the first merge leaves the index as it is, so the second finds the same place
  have hf : acc.records.modify place (fun r => (r.update p).update q) =
      (acc.records.modify place (·.update p)).modify place (·.update q) := by
    rw [List.modify_modify_eq]
    rfl
  rw [merge_of_place hp, hf]
  exact merge_of_place hq

theorem merge_merge_of_new {acc : Accumulator} {p q : Partial} (hs : p.size = q.size)
    (hp : acc.place? p.size = none) :
    (acc.merge p).merge q =
      ⟨acc.records ++ [p.update q], (p.size, acc.records.length) :: acc.index⟩ := by
  have hq : place? ⟨acc.records ++ [p], (p.size, acc.records.length) :: acc.index⟩ q.size =
      some acc.records.length := by simp [place?, hs]
  rw [merge_of_new hp, merge_of_place hq]
  simp [List.modify_eq_set_getElem?]

/-- Neighbours of one size that fill different fields can be merged in either order. -/
theorem merge_merge_comm {p q : Partial} (hs : p.size = q.size) (h : p.Disjoint q)
    (acc : Accumulator) : (acc.merge p).merge q = (acc.merge q).merge p := by
  cases hp : acc.place? p.size with
  | some place =>
    have hq : acc.place? q.size = some place := hs ▸ hp
    rw [merge_merge_of_place hp hq, merge_merge_of_place hq hp]
    congr 2
    funext r
    exact Partial.update_update_comm h r
  | none =>
    have hq : acc.place? q.size = none := hs ▸ hp
    rw [merge_merge_of_new hs hp, merge_merge_of_new hs.symm hq, Partial.update_comm hs h, hs]

theorem mergeAll_swap (earlier later : List Partial) {p q : Partial} (hs : p.size = q.size)
    (h : p.Disjoint q) :
    empty.mergeAll (earlier ++ p :: q :: later) = empty.mergeAll (earlier ++ q :: p :: later) := by
  rw [mergeAll_append, mergeAll_append]
  change (((empty.mergeAll earlier).merge p).merge q).mergeAll later = _
  rw [merge_merge_comm hs h]
  rfl

/-- Sequences that say the same about each size give accumulators that agree, and equal records
when the sizes are first seen in the same order; so do tables whose live rows are such sequences.
Two neighbours of one size may be exchanged where no field has a count in both. -/
theorem interleaving_immaterial :
    (∀ first second, Partial.SameBySize first second →
      Agree (empty.mergeAll first) (empty.mergeAll second) ∧
      (Partial.sizes first = Partial.sizes second →
        (empty.mergeAll first).finish = (empty.mergeAll second).finish)) ∧
    (∀ policies tables others,
      Partial.SameBySize (LiveRow.ofTables policies tables) (LiveRow.ofTables policies others) →
      Agree (Join.joinTables policies tables).accumulator
        (Join.joinTables policies others).accumulator ∧
      (Partial.sizes (LiveRow.ofTables policies tables) =
          Partial.sizes (LiveRow.ofTables policies others) →
        (Join.joinTables policies tables).accumulator.finish =
          (Join.joinTables policies others).accumulator.finish)) ∧
    ∀ earlier later p q, p.size = q.size → p.Disjoint q → ∀ size,
      (empty.mergeAll (earlier ++ p :: q :: later)).get? size =
        (empty.mergeAll (earlier ++ q :: p :: later)).get? size := by
  refine ⟨?_, ?_, ?_⟩
  · intro first second h
    exact ⟨agree_mergeAll h, finish_mergeAll_eq h⟩
  · intro policies tables others h
    rw [Join.accumulator_joinTables, Join.accumulator_joinTables]
    exact ⟨agree_mergeAll h, finish_mergeAll_eq h⟩
  · intro earlier later p q hs h size
    rw [mergeAll_swap earlier later hs h]

theorem interleaving_immaterial_two_sizes :
    Agree
      (empty.mergeAll [⟨['A'], some 2, some 8, none⟩, ⟨['B'], some 4, none, none⟩,
        ⟨['A'], some 1, none, some 500⟩])
      (empty.mergeAll [⟨['B'], some 4, none, none⟩, ⟨['A'], some 2, some 8, none⟩,
        ⟨['A'], some 1, none, some 500⟩]) ∧
    (empty.mergeAll [⟨['A'], some 2, some 8, none⟩, ⟨['B'], some 4, none, none⟩,
        ⟨['A'], some 1, none, some 500⟩]).finish =
      (empty.mergeAll [⟨['A'], some 2, some 8, none⟩, ⟨['A'], some 1, none, some 500⟩,
        ⟨['B'], some 4, none, none⟩]).finish ∧
    Agree
      (Join.joinTables .standard [⟨["Size".toList, "vCPU".toList], [[['A'], ['2']], [['B'], ['4']]]⟩,
        ⟨["Size".toList, "RAM".toList], [[['A'], ['8']]]⟩]).accumulator
      (Join.joinTables .standard [⟨["Size".toList, "vCPU".toList], [[['B'], ['4']], [['A'], ['2']]]⟩,
        ⟨["Size".toList, "RAM".toList], [[['A'], ['8']]]⟩]).accumulator ∧
    (empty.mergeAll [⟨['A'], some 2, none, none⟩, ⟨['A'], none, some 8, none⟩]).get? ['A'] =
      (empty.mergeAll [⟨['A'], none, some 8, none⟩, ⟨['A'], some 2, none, none⟩]).get? ['A'] := by
  obtain ⟨hp, ht, hs⟩ := interleaving_immaterial
  refine ⟨(hp _ _ ?_).1, (hp _ _ ?_).2 rfl, (ht _ _ _ ?_).1, hs [] [] _ _ ?_ ?_ _⟩
  · exact Partial.sameBySize_swap [] _ (by decide)
  · exact Partial.sameBySize_swap [⟨['A'], some 2, some 8, none⟩] [] (by decide)
  · exact Partial.sameBySize_swap [] [⟨['A'], none, some 8, none⟩]
      (p := ⟨['A'], some 2, none, none⟩) (q := ⟨['B'], some 4, none, none⟩) (by decide)
  · rfl
  · exact ⟨.inr rfl, .inl rfl, .inl rfl⟩

end Accumulator
end InstanceCatalog
