import InstanceCatalog.Proofs.Join.Gathering
import Mathlib.Data.Finset.Card

namespace InstanceCatalog
namespace Partial

theorem nodup_sizes (partials : List Partial) : (sizes partials).Nodup := by
  induction partials using List.reverseRecOn with
  | nil => exact List.nodup_nil
  | append_singleton partials p ih =>
    rw [sizes_append_singleton]
    split
    · exact ih
    · next h =>
      have hn : p.size ∉ sizes partials := fun hm => h (mem_sizes.mp hm)
      exact List.nodup_append.mpr ⟨ih, List.nodup_singleton _, fun s hs t ht he =>
        hn (List.mem_singleton.mp ht ▸ he ▸ hs)⟩

theorem length_sizes (partials : List Partial) :
    (sizes partials).length = (partials.map Partial.size).toFinset.card := by
  have hf : (sizes partials).toFinset = (partials.map Partial.size).toFinset := by
    ext size
    rw [List.mem_toFinset, List.mem_toFinset, mem_sizes]
  rw [← hf, List.toFinset_card_of_nodup (nodup_sizes partials)]

/-- The place of a size among the sizes does not change when another size is added. -/
theorem getElem?_sizes_append_singleton {partials : List Partial} {p : Partial} {size : Text}
    (h : p.size ≠ size) (place : Nat) :
    (sizes (partials ++ [p]))[place]? = some size ↔ (sizes partials)[place]? = some size := by
  rw [sizes_append_singleton]
  split
  · exact Iff.rfl
  · rcases Nat.lt_trichotomy place (sizes partials).length with hl | rfl | hl
    · rw [List.getElem?_append_left hl]
    · simp [h]
    · rw [List.getElem?_eq_none (by simp; omega), List.getElem?_eq_none hl.le]

theorem isSome_update (p newer : Partial) :
    (p.vcpu.isSome → (p.update newer).vcpu.isSome) ∧
      (p.memory.isSome → (p.update newer).memory.isSome) ∧
      (p.network.isSome → (p.update newer).network.isSome) := by
  simp only [update, Option.isSome_or]
  refine ⟨?_, ?_, ?_⟩ <;> intro h <;> rw [h, Bool.or_true]

def updateChecked? (p newer : Partial) : Option Partial :=
  if p.size = newer.size then some (p.update newer) else none

end Partial

namespace Accumulator

/-- A merge that stops where the index names no record or one of another size. -/
def mergeChecked? (newer : Partial) (acc : Accumulator) : Option Accumulator :=
  match acc.place? newer.size with
  | some place => do
    let updated ← (← acc.records[place]?).updateChecked? newer
    return { acc with records := acc.records.set place updated }
  | none => some ⟨acc.records ++ [newer], (newer.size, acc.records.length) :: acc.index⟩

theorem Indexed.place?_eq_some {acc : Accumulator} (h : acc.Indexed) {size : Text} {place : Nat} :
    acc.place? size = some place ↔ ∃ r, acc.records[place]? = some r ∧ r.size = size := by
  rw [h size place, Option.map_eq_some_iff]

/-- The index never misleads a merge. -/
theorem Indexed.mergeChecked? {acc : Accumulator} (h : acc.Indexed) (p : Partial) :
    acc.mergeChecked? p = some (acc.merge p) := by
  cases hp : acc.place? p.size with
  | none => simp only [Accumulator.mergeChecked?, Accumulator.merge, hp]
  | some place =>
    obtain ⟨r, hr, hs⟩ := h.place?_eq_some.mp hp
    have hm : acc.records.modify place (·.update p) = acc.records.set place (r.update p) := by
      rw [List.modify_eq_set_getElem?, hr]
      rfl
    simp [Accumulator.mergeChecked?, merge_of_place hp, hp, hr, hm, Partial.updateChecked?, hs]

theorem map_size_mergeAll (partials : List Partial) :
    (empty.mergeAll partials).records.map Partial.size = Partial.sizes partials := by
  rw [records_mergeAll, List.map_map]
  exact List.map_id _

theorem place?_mergeAll (partials : List Partial) (size : Text) (place : Nat) :
    (empty.mergeAll partials).place? size = some place ↔
      (Partial.sizes partials)[place]? = some size := by
  rw [indexed_mergeAll indexed_empty partials size place, ← List.getElem?_map, map_size_mergeAll]

theorem get?_mergeAll (partials : List Partial) (size : Text) :
    (empty.mergeAll partials).get? size =
      if size ∈ partials.map Partial.size then some (Partial.gathered partials size) else none := by
  have hi := indexed_mergeAll indexed_empty partials
  unfold get?
  cases hp : (empty.mergeAll partials).place? size with
  | none =>
    rw [hi.place?_eq_none, map_size_mergeAll, Partial.mem_sizes] at hp
    rw [if_neg hp]
    rfl
  | some place =>
    have hs := (place?_mergeAll partials size place).mp hp
    have hm := Partial.mem_sizes.mp (List.mem_of_getElem? hs)
    have hr : (empty.mergeAll partials).records[place]? = some (Partial.gathered partials size) := by
      rw [records_mergeAll, List.getElem?_map, hs]
      rfl
    rw [if_pos hm]
    exact hr

/-- What an accumulator says of the partials that have been merged into it. -/
structure Represents (acc : Accumulator) (partials : List Partial) : Prop where
  index : ∀ size place, acc.place? size = some place ↔
    ∃ r, acc.records[place]? = some r ∧ r.size = size
  distinct : (acc.records.map Partial.size).Nodup
  length : acc.length = (partials.map Partial.size).toFinset.card
  order : acc.records.map Partial.size = (partials.map Partial.size).eraseDups
  absent : ∀ size, acc.get? size = none ↔ size ∉ partials.map Partial.size
  present : ∀ size ∈ partials.map Partial.size, acc.get? size = some {
    size := size
    vcpu := ((partials.filter (·.size = size)).filterMap Partial.vcpu).getLast?
    memory := ((partials.filter (·.size = size)).filterMap Partial.memory).getLast?
    network := ((partials.filter (·.size = size)).filterMap Partial.network).getLast? }

theorem represents_mergeAll (partials : List Partial) :
    (empty.mergeAll partials).Represents partials where
  index _ _ := (indexed_mergeAll indexed_empty partials).place?_eq_some
  distinct := by
    rw [map_size_mergeAll]
    exact Partial.nodup_sizes partials
  length := by
    rw [← Partial.length_sizes, ← map_size_mergeAll, List.length_map]
    rfl
  order := map_size_mergeAll partials
  absent size := by
    rw [get?_mergeAll]
    split <;> simp_all
  present size hs := by
    rw [get?_mergeAll, if_pos hs]
    rfl

/-- What a merge leaves as it was: every other size, and the presence of each count. -/
structure KeptBy (p : Partial) (acc next : Accumulator) : Prop where
  place : ∀ size, p.size ≠ size → next.place? size = acc.place? size
  record : ∀ size, p.size ≠ size → next.get? size = acc.get? size
  counts : ∀ size before, acc.get? size = some before → ∃ after, next.get? size = some after ∧
    (before.vcpu.isSome → after.vcpu.isSome) ∧ (before.memory.isSome → after.memory.isSome) ∧
    (before.network.isSome → after.network.isSome)

theorem keptBy_mergeAll (partials : List Partial) (p : Partial) :
    KeptBy p (empty.mergeAll partials) ((empty.mergeAll partials).merge p) := by
  rw [← mergeAll_append_singleton]
  refine ⟨?_, ?_, ?_⟩
  · intro size hs
    apply Option.ext
    intro place
    rw [place?_mergeAll, place?_mergeAll, Partial.getElem?_sizes_append_singleton hs]
  · intro size hs
    rw [get?_mergeAll, get?_mergeAll, Partial.gathered_append_singleton, if_neg hs]
    simp [Ne.symm hs]
  · intro size before hb
    rw [get?_mergeAll] at hb
    split at hb
    · next hm =>
      cases hb
      have hn : size ∈ (partials ++ [p]).map Partial.size := by
        rw [List.map_append]
        exact List.mem_append_left _ hm
      refine ⟨_, by rw [get?_mergeAll, if_pos hn], ?_⟩
      rw [Partial.gathered_append_singleton]
      split
      · exact Partial.isSome_update _ p
      · exact ⟨id, id, id⟩
    · cases hb

/-- After any partials have been merged into nothing, the accumulator represents them, the next
merge is not misled by the index, and it keeps all that it is not about. -/
theorem represents_and_keeps (partials : List Partial) :
    (empty.mergeAll partials).Represents partials ∧
      ∀ p, (empty.mergeAll partials).mergeChecked? p = some ((empty.mergeAll partials).merge p) ∧
        KeptBy p (empty.mergeAll partials) ((empty.mergeAll partials).merge p) :=
  ⟨represents_mergeAll partials, fun p =>
    ⟨(indexed_mergeAll indexed_empty partials).mergeChecked? p, keptBy_mergeAll partials p⟩⟩

end Accumulator
end InstanceCatalog
