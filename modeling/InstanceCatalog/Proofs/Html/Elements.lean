import InstanceCatalog.Html.Forest
import Mathlib.Data.List.Nodup

namespace InstanceCatalog
namespace Html

/-- One step down a tree, behind so many siblings: into an element of a name, or into the contents
of a template. -/
structure Level where
  index : Nat
  name? : Option String
deriving DecidableEq, Repr

structure Element where
  /-- What it stands in, the outermost first. -/
  above : List Level
  /-- The number of siblings before it. -/
  index : Nat
  serial : Nat
  name : String
  children : Forest
deriving DecidableEq, Repr

namespace Element

def level (e : Element) : Level := ⟨e.index, some e.name⟩

/-- What the children of an element stand in. -/
def inside (e : Element) : List Level := e.above ++ [e.level]

def within (level : Level) (e : Element) : Element := { e with above := level :: e.above }

def outermost (e : Element) : Nat :=
  match e.above with
  | [] => e.index
  | level :: _ => level.index

theorem within_injective (level : Level) : Function.Injective (within level) := by
  rintro ⟨⟩ ⟨⟩ h
  simpa [within] using h

end Element

namespace Forest

/-- The elements among nodes and inside them, in document order. The first node stands behind
`index` siblings. -/
def elementsFrom (index : Nat) : Forest → List Element
  | .nil => []
  | .text _ next => elementsFrom (index + 1) next
  | .element serial name children next =>
    ⟨[], index, serial, name, children⟩ ::
      ((elementsFrom 0 children).map (Element.within ⟨index, some name⟩) ++
        elementsFrom (index + 1) next)
  | .contents children next =>
    (elementsFrom 0 children).map (Element.within ⟨index, none⟩) ++ elementsFrom (index + 1) next

def elements (forest : Forest) : List Element := elementsFrom 0 forest

theorem outermost_of_mem_map {level : Level} {inner : List Element} {e : Element}
    (h : e ∈ inner.map (Element.within level)) : e.outermost = level.index := by
  obtain ⟨e, -, rfl⟩ := List.mem_map.mp h
  rfl

theorem le_outermost {index : Nat} {forest : Forest} {e : Element}
    (h : e ∈ elementsFrom index forest) : index ≤ e.outermost := by
  induction forest generalizing index with
  | nil => cases h
  | text _ next ih => exact Nat.le_trans (Nat.le_succ index) (ih h)
  | element serial name children next _ ih =>
    rcases List.mem_cons.mp h with rfl | h
    · exact Nat.le_refl index
    · rcases List.mem_append.mp h with h | h
      · exact Nat.le_of_eq (outermost_of_mem_map h).symm
      · exact Nat.le_trans (Nat.le_succ index) (ih h)
  | contents children next _ ih =>
    rcases List.mem_append.mp h with h | h
    · exact Nat.le_of_eq (outermost_of_mem_map h).symm
    · exact Nat.le_trans (Nat.le_succ index) (ih h)

/-- What stands inside one node is apart from what its later siblings hold. -/
theorem nodup_append {index : Nat} (name? : Option String) {inner later : List Element}
    (hi : inner.Nodup) (hl : later.Nodup) (h : ∀ e ∈ later, index + 1 ≤ e.outermost) :
    (inner.map (Element.within ⟨index, name?⟩) ++ later).Nodup := by
  refine List.Nodup.append (List.Nodup.map (Element.within_injective _) hi) hl ?_
  intro e he hm
  have ho := outermost_of_mem_map he
  have hs := h e hm
  simp only at ho
  omega

theorem nodup_elementsFrom (index : Nat) (forest : Forest) : (elementsFrom index forest).Nodup := by
  induction forest generalizing index with
  | nil => exact List.nodup_nil
  | text _ next ih => exact ih (index + 1)
  | element serial name children next ihc ihn =>
    have ht := nodup_append (some name) (ihc 0) (ihn (index + 1)) fun _ => le_outermost
    refine List.nodup_cons.mpr ⟨fun h => ?_, ht⟩
    rcases List.mem_append.mp h with h | h
    · obtain ⟨e, -, he⟩ := List.mem_map.mp h
      exact absurd (congrArg Element.above he) (List.cons_ne_nil _ _)
    · exact absurd (le_outermost h) (Nat.not_succ_le_self index)
  | contents children next ihc ihn =>
    exact nodup_append none (ihc 0) (ihn (index + 1)) fun _ => le_outermost

/-- No element of a document is met twice. -/
theorem nodup_elements (forest : Forest) : forest.elements.Nodup := nodup_elementsFrom 0 forest

end Forest

/-- An element of the name is among the levels, and no border of a template is inside it. -/
def StandsIn (name : String) (levels : List Level) : Prop :=
  some name ∈ (levels.map (·.name?)).reverse.takeWhile Option.isSome

instance (name : String) : DecidablePred (StandsIn name) :=
  fun _ => inferInstanceAs (Decidable (_ ∈ _))

theorem not_standsIn_nil (name : String) : ¬StandsIn name [] := List.not_mem_nil

theorem standsIn_concat_some {name : String} {levels : List Level} {index : Nat} {other : String} :
    StandsIn name (levels ++ [⟨index, some other⟩]) ↔ other = name ∨ StandsIn name levels := by
  simp [StandsIn, eq_comm]

theorem not_standsIn_concat_none (name : String) (levels : List Level) (index : Nat) :
    ¬StandsIn name (levels ++ [⟨index, none⟩]) := by
  simp [StandsIn]

theorem StandsIn.append {name : String} {levels : List Level} (h : StandsIn name levels)
    (outer : List Level) : StandsIn name (outer ++ levels) := by
  rw [StandsIn, List.map_append, List.reverse_append, List.takeWhile_append]
  split
  · exact List.mem_append_left _ ((List.takeWhile_prefix _).subset h)
  · exact h

end Html
end InstanceCatalog
