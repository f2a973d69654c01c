import InstanceCatalog.Record
import Mathlib.Data.List.Induction

namespace InstanceCatalog
namespace Partial

def lastCount (count : Partial → Option Nat) (size : Text) (partials : List Partial) :
    Option Nat :=
  ((partials.filter (·.size = size)).filterMap count).getLast?

def sizes (partials : List Partial) : List Text := (partials.map Partial.size).eraseDups

/-- All that partials say about a size. -/
def gathered (partials : List Partial) (size : Text) : Partial :=
  ⟨size, lastCount vcpu size partials, lastCount memory size partials,
    lastCount network size partials⟩

theorem lastCount_append (count : Partial → Option Nat) (size : Text)
    (earlier later : List Partial) :
    lastCount count size (earlier ++ later) =
      (lastCount count size later).or (lastCount count size earlier) := by
  unfold lastCount
  rw [List.filter_append, List.filterMap_append, List.getLast?_append]

theorem lastCount_singleton (count : Partial → Option Nat) (size : Text) (p : Partial) :
    lastCount count size [p] = if p.size = size then count p else none := by
  unfold lastCount
  by_cases h : p.size = size
  · rw [if_pos h, List.filter_cons_of_pos (by simpa using h)]
    cases hc : count p <;> simp [hc]
  · rw [if_neg h, List.filter_cons_of_neg (by simpa using h)]
    rfl

theorem lastCount_eq_none (count : Partial → Option Nat) {size : Text} {partials : List Partial}
    (h : size ∉ partials.map Partial.size) : lastCount count size partials = none := by
  have hf : partials.filter (·.size = size) = [] := by
    apply List.filter_eq_nil_iff.mpr
    intro p hp hs
    exact h (List.mem_map.mpr ⟨p, hp, by simpa using hs⟩)
  rw [lastCount, hf]
  rfl

theorem gathered_append_singleton (partials : List Partial) (p : Partial) (size : Text) :
    gathered (partials ++ [p]) size =
      if p.size = size then (gathered partials size).update p else gathered partials size := by
  by_cases h : p.size = size <;>
    simp [gathered, lastCount_append, lastCount_singleton, update, h]

theorem gathered_of_new {partials : List Partial} {p : Partial}
    (h : p.size ∉ partials.map Partial.size) : gathered (partials ++ [p]) p.size = p := by
  rw [gathered_append_singleton, if_pos rfl]
  simp [gathered, update, lastCount_eq_none _ h]

theorem mem_sizes {size : Text} {partials : List Partial} :
    size ∈ sizes partials ↔ size ∈ partials.map Partial.size := List.mem_eraseDups

theorem sizes_append_singleton (partials : List Partial) (p : Partial) :
    sizes (partials ++ [p]) =
      if p.size ∈ partials.map Partial.size then sizes partials
      else sizes partials ++ [p.size] := by
  unfold sizes
  rw [List.map_append, List.eraseDups_append]
  by_cases h : p.size ∈ partials.map Partial.size
  · have hr : (List.map Partial.size [p]).removeAll (partials.map Partial.size) = [] := by
      simpa [List.removeAll] using h
    rw [if_pos h, hr, List.eraseDups_nil, List.append_nil]
  · have hr : (List.map Partial.size [p]).removeAll (partials.map Partial.size) = [p.size] := by
      simpa [List.removeAll] using h
    rw [if_neg h, hr]
    simp [List.eraseDups_cons]

/-- A partial of a new size comes after all others. -/
theorem map_gathered_of_new {partials : List Partial} {p : Partial}
    (h : p.size ∉ partials.map Partial.size) :
    (sizes (partials ++ [p])).map (gathered (partials ++ [p])) =
      (sizes partials).map (gathered partials) ++ [p] := by
  rw [sizes_append_singleton, if_neg h, List.map_append, List.map_singleton, gathered_of_new h]
  congr 1
  apply List.map_congr_left
  intro size hs
  have he : p.size ≠ size := fun he => h (he ▸ mem_sizes.mp hs)
  rw [gathered_append_singleton, if_neg he]

/-- A partial of a size that was seen before changes what stands at the place of that size. -/
theorem map_gathered_of_seen {partials : List Partial} {p : Partial} {place : Nat}
    (h : p.size ∈ partials.map Partial.size)
    (hp : ∀ i size, (sizes partials)[i]? = some size → (place = i ↔ p.size = size)) :
    (sizes (partials ++ [p])).map (gathered (partials ++ [p])) =
      ((sizes partials).map (gathered partials)).modify place (·.update p) := by
  rw [sizes_append_singleton, if_pos h]
  apply List.ext_getElem?
  intro i
  rw [List.getElem?_modify, List.getElem?_map, List.getElem?_map]
  cases hs : (sizes partials)[i]? with
  | none => rfl
  | some size =>
    simp only [Option.map_eq_map, Option.map_some, gathered_append_singleton, hp i size hs]

end Partial

namespace Accumulator

/-- The index holds a size at a place exactly when the record at that place has the size. -/
def Indexed (acc : Accumulator) : Prop :=
  ∀ size place, acc.place? size = some place ↔ (acc.records[place]?).map Partial.size = some size

def mergeAll (acc : Accumulator) (partials : List Partial) : Accumulator :=
  partials.foldl (fun acc p => acc.merge p) acc

theorem mergeAll_append (acc : Accumulator) (first second : List Partial) :
    acc.mergeAll (first ++ second) = (acc.mergeAll first).mergeAll second :=
  List.foldl_append

theorem merge_of_place {acc : Accumulator} {p : Partial} {place : Nat}
    (h : acc.place? p.size = some place) :
    acc.merge p = { acc with records := acc.records.modify place (·.update p) } := by
  simp only [merge, h]

theorem merge_of_new {acc : Accumulator} {p : Partial} (h : acc.place? p.size = none) :
    acc.merge p = ⟨acc.records ++ [p], (p.size, acc.records.length) :: acc.index⟩ := by
  simp only [merge, h]

theorem indexed_empty : Indexed empty := by
  intro size place
  simp [place?, empty]

theorem Indexed.place?_eq_none {acc : Accumulator} (h : acc.Indexed) {size : Text} :
    acc.place? size = none ↔ size ∉ acc.records.map Partial.size := by
  rw [Option.eq_none_iff_forall_not_mem, List.mem_iff_getElem?, not_exists]
  simp only [List.getElem?_map, ← h size, Option.mem_def]

/-- A new size goes to the end, under its own place in the index. -/
theorem Indexed.append {acc : Accumulator} (h : acc.Indexed) {p : Partial}
    (hp : acc.place? p.size = none) :
    Indexed ⟨acc.records ++ [p], (p.size, acc.records.length) :: acc.index⟩ := by
  have hn := h.place?_eq_none.mp hp
  intro size place
  have hl : place? ⟨acc.records ++ [p], (p.size, acc.records.length) :: acc.index⟩ size =
      if size = p.size then some acc.records.length else acc.place? size := by
    simp only [place?, List.lookup_cons]
    by_cases he : size = p.size
    · rw [if_pos he, beq_iff_eq.mpr he]
    · rw [if_neg he, beq_eq_false_iff_ne.mpr he]
  rw [hl]
  rcases Nat.lt_trichotomy place acc.records.length with ht | rfl | ht
  · rw [List.getElem?_append_left ht]
    split
    · next he =>
      rw [← h, he, hp]
      simp [Nat.ne_of_gt ht]
    · exact h size place
  · have hd : ¬ acc.place? size = some acc.records.length := by simp [h size]
    by_cases he : size = p.size <;> simp [he, hd, eq_comm]
  · have hd : ¬ acc.place? size = some place := by
      simp [h size, List.getElem?_eq_none (Nat.le_of_lt ht)]
    have he : (acc.records ++ [p])[place]? = none := List.getElem?_eq_none (by simp; omega)
    rw [he]
    split <;> simp [hd, Nat.ne_of_lt ht]

theorem Indexed.merge {acc : Accumulator} (h : acc.Indexed) (p : Partial) :
    (acc.merge p).Indexed := by
  cases hp : acc.place? p.size with
  | some found =>
    intro size place
    have hs : ((acc.records.modify found (·.update p))[place]?).map Partial.size =
        (acc.records[place]?).map Partial.size := by
      rw [List.getElem?_modify]
      cases acc.records[place]? with
      | none => rfl
      | some r => by_cases he : found = place <;> simp [he, Partial.update]
    rw [merge_of_place hp, hs]
    exact h size place
  | none =>
    rw [merge_of_new hp]
    exact h.append hp

theorem indexed_mergeAll {acc : Accumulator} (h : acc.Indexed) (partials : List Partial) :
    (acc.mergeAll partials).Indexed := by
  induction partials generalizing acc with
  | nil => exact h
  | cons p rest ih => exact ih (h.merge p)

theorem mergeAll_append_singleton (acc : Accumulator) (partials : List Partial) (p : Partial) :
    acc.mergeAll (partials ++ [p]) = (acc.mergeAll partials).merge p := by
  rw [mergeAll_append]
  rfl

/-- Every merge history leaves one record for each size in first-merge order, with the last count
of each field. -/
theorem records_mergeAll (partials : List Partial) :
    (empty.mergeAll partials).records =
      (Partial.sizes partials).map (Partial.gathered partials) := by
  induction partials using List.reverseRecOn with
  | nil => rfl
  | append_singleton partials p ih =>
    have hi := indexed_mergeAll indexed_empty partials
    have hs : (empty.mergeAll partials).records.map Partial.size = Partial.sizes partials := by
      rw [ih, List.map_map]
      exact List.map_id _
    have hn : (empty.mergeAll partials).place? p.size = none ↔
        p.size ∉ partials.map Partial.size := by
      rw [hi.place?_eq_none, hs, Partial.mem_sizes]
    rw [mergeAll_append_singleton]
    cases hp : (empty.mergeAll partials).place? p.size with
    | none => rw [merge_of_new hp, Partial.map_gathered_of_new (hn.mp hp), ih]
    | some found =>
      have hm : p.size ∈ partials.map Partial.size := by
        by_contra hc
        simp [hn.mpr hc] at hp
      rw [merge_of_place hp, ih]
      apply (Partial.map_gathered_of_seen hm _).symm
      -- the index tells the one place at which the merged size stands
      intro i size hsize
      have hw : (empty.mergeAll partials).place? size = some i := by
        rw [hi, ← List.getElem?_map, hs, hsize]
      constructor
      · rintro rfl
        rw [hi] at hp hw
        exact Option.some.inj (hp.symm.trans hw)
      · rintro rfl
        exact Option.some.inj (hp.symm.trans hw)

end Accumulator
end InstanceCatalog
