import InstanceCatalog.Proofs.Html.Places

namespace InstanceCatalog
namespace Html

/-- The nodes with other contents in the one at a place. The first node stands behind `index`
siblings, and the empty place is that of all nodes together. -/
def Forest.refillFrom (contents : Forest) : Nat → List Nat → Forest → Forest
  | _, [], _ => contents
  | _, _ :: _, .nil => .nil
  | index, i :: path, .text s next => .text s (refillFrom contents (index + 1) (i :: path) next)
  | index, i :: path, .element serial name children next =>
    if i = index then .element serial name (refillFrom contents 0 path children) next
    else .element serial name children (refillFrom contents (index + 1) (i :: path) next)
  | index, i :: path, .contents children next =>
    if i = index then .contents (refillFrom contents 0 path children) next
    else .contents children (refillFrom contents (index + 1) (i :: path) next)

def Forest.refill (forest : Forest) (path : List Nat) (contents : Forest) : Forest :=
  refillFrom contents 0 path forest

namespace Element

variable {contents : Forest} {path : List Nat}

def refill (e : Element) (path : List Nat) (contents : Forest) : Element :=
  { e with
    children :=
      if e.place <+: path then e.children.refill (path.drop e.place.length) contents
      else e.children }

theorem refill_eq_self {e : Element} (h : ¬e.place <+: path) : e.refill path contents = e := by
  rw [refill, if_neg h]

/-- What stands behind other nodes than the place leads to stays as it is. -/
theorem refill_of_outermost_ne {e : Element} {i : Nat} (h : e.outermost ≠ i) :
    e.refill (i :: path) contents = e := by
  obtain ⟨rest, hr⟩ := e.place_eq_cons
  apply refill_eq_self
  rw [hr, List.cons_prefix_cons]
  exact fun hp => h hp.1

theorem map_refill_of_outermost_ne {elements : List Element} {i : Nat}
    (h : ∀ e ∈ elements, e.outermost ≠ i) :
    elements.map (Element.refill · (i :: path) contents) = elements :=
  (List.map_congr_left fun e he => refill_of_outermost_ne (h e he)).trans (List.map_id _)

theorem refill_within (level : Level) (e : Element) :
    (e.within level).refill (level.index :: path) contents =
      (e.refill path contents).within level := by
  have hp : (e.within level).place <+: level.index :: path ↔ e.place <+: path := by
    rw [place_within, List.cons_prefix_cons, and_iff_right rfl]
  simp only [refill, hp]
  rfl

/-- What stands in an element is refilled as among its children. -/
theorem refill_below (outer e : Element) (rest : List Nat) :
    (outer.below e).refill (outer.place ++ rest) contents =
      (outer.refill (outer.place ++ rest) contents).below (e.refill rest contents) := by
  have hp : (outer.below e).place <+: outer.place ++ rest ↔ e.place <+: rest := by
    rw [place_below, List.prefix_append_right_inj]
  have hd : (outer.place ++ rest).drop (outer.below e).place.length = rest.drop e.place.length := by
    rw [place_below, List.length_append, ← List.drop_drop, List.drop_left]
  simp only [refill, hp, hd]
  rfl

theorem children_refill (outer : Element) (rest : List Nat) :
    (outer.refill (outer.place ++ rest) contents).children = outer.children.refill rest contents := by
  rw [refill, if_pos (List.prefix_append _ _), List.drop_left]

end Element

namespace Element

def isApart (path : List Nat) (e : Element) : Bool := !path.isPrefixOf e.up

theorem isApart_iff {path : List Nat} {e : Element} : e.isApart path ↔ ¬path <+: e.up := by
  rw [isApart, Bool.not_eq_true', ← Bool.not_eq_true, List.isPrefixOf_iff_prefix]

theorem isApart_of_place {path : List Nat} {e : Element} (h : ¬path <+: e.place) :
    e.isApart path :=
  isApart_iff.mpr fun hu => h (hu.trans (List.prefix_append _ _))

theorem isApart_within (level : Level) (path : List Nat) (e : Element) :
    (e.within level).isApart (level.index :: path) = e.isApart path := by
  simp [isApart, within, up]

theorem isApart_of_outermost_ne {i : Nat} {path : List Nat} {e : Element} (h : e.outermost ≠ i) :
    e.isApart (i :: path) := by
  obtain ⟨rest, hr⟩ := e.place_eq_cons
  apply isApart_of_place
  rw [hr, List.cons_prefix_cons]
  exact fun hp => h hp.1.symm

end Element

namespace Forest

variable {contents forest : Forest} {index i : Nat} {path : List Nat} {e : Element}

theorem filter_isApart_within (level : Level) (path : List Nat) (inner : List Element) :
    (inner.map (Element.within level)).filter (Element.isApart (level.index :: path)) =
      (inner.filter (Element.isApart path)).map (Element.within level) := by
  rw [List.filter_map]
  exact congrArg _ (List.filter_congr fun e _ => e.isApart_within level path)

theorem filter_isApart_of_outermost_ne {elements : List Element}
    (h : ∀ e ∈ elements, e.outermost ≠ i) :
    elements.filter (Element.isApart (i :: path)) = elements :=
  List.filter_eq_self.mpr fun e he => Element.isApart_of_outermost_ne (h e he)

theorem filter_isApart_nil (elements : List Element) : elements.filter (Element.isApart []) = [] :=
  List.filter_eq_nil_iff.mpr fun _ _ h => Element.isApart_iff.mp h List.nil_prefix

section Siblings
variable {inner inner' later later' : List Element} {top top' : Element}

theorem filter_cons_refill (ht : top.isApart path) (he : top' = top.refill path contents)
    (h : later'.filter (Element.isApart path) =
      (later.filter (Element.isApart path)).map (Element.refill · path contents)) :
    (top' :: later').filter (Element.isApart path) =
      ((top :: later).filter (Element.isApart path)).map (Element.refill · path contents) := by
  subst he
  have ht' : (top.refill path contents).isApart path := ht
  rw [List.filter_cons_of_pos ht', List.filter_cons_of_pos ht, List.map_cons, h]

/-- The place leads into a node, and what is behind it stays. -/
theorem filter_append_inside (level : Level) (h : ∀ e ∈ later, level.index + 1 ≤ e.outermost)
    (hi : inner'.filter (Element.isApart path) =
      (inner.filter (Element.isApart path)).map (Element.refill · path contents)) :
    (inner'.map (Element.within level) ++ later).filter (Element.isApart (level.index :: path)) =
      ((inner.map (Element.within level) ++ later).filter
        (Element.isApart (level.index :: path))).map
          (Element.refill · (level.index :: path) contents) := by
  have hl : ∀ e ∈ later, e.outermost ≠ level.index := fun e he => (Nat.ne_of_lt (h e he)).symm
  rw [List.filter_append, List.filter_append, List.map_append, filter_isApart_of_outermost_ne hl,
    Element.map_refill_of_outermost_ne hl, filter_isApart_within, filter_isApart_within, hi,
    List.map_map, List.map_map]
  congr 1
  exact List.map_congr_left fun e _ => (Element.refill_within level e).symm

/-- The place leads past a node, which stays. -/
theorem filter_append_behind (level : Level) (h : i ≠ level.index)
    (hl : later'.filter (Element.isApart (i :: path)) =
      (later.filter (Element.isApart (i :: path))).map (Element.refill · (i :: path) contents)) :
    (inner.map (Element.within level) ++ later').filter (Element.isApart (i :: path)) =
      ((inner.map (Element.within level) ++ later).filter (Element.isApart (i :: path))).map
        (Element.refill · (i :: path) contents) := by
  have hi : ∀ e ∈ inner.map (Element.within level), e.outermost ≠ i :=
    fun e he => outermost_of_mem_map he ▸ h.symm
  rw [List.filter_append, List.filter_append, List.map_append, hl,
    filter_isApart_of_outermost_ne hi, Element.map_refill_of_outermost_ne hi]

end Siblings

/-- All that is not inside the refilled element is still there, in the same order. -/
theorem filter_refillFrom (contents : Forest) (index : Nat) (path : List Nat) (forest : Forest) :
    ((refillFrom contents index path forest).elementsFrom index).filter (Element.isApart path) =
      ((forest.elementsFrom index).filter (Element.isApart path)).map
        (Element.refill · path contents) := by
  -- everything is inside the empty place, so then nothing is left to compare
  induction forest generalizing index path with
  | nil => cases path <;> simp [refillFrom, elementsFrom, filter_isApart_nil]
  | text _ next ih =>
    cases path with
    | nil => simp [filter_isApart_nil]
    | cons i path => exact ih (index + 1) (i :: path)
  | contents children next ihc ihn =>
    cases path with
    | nil => simp [filter_isApart_nil]
    | cons i path =>
      rw [refillFrom]
      split
      · next hi =>
        subst hi
        exact filter_append_inside ⟨i, none⟩ (fun _ => le_outermost) (ihc 0 path)
      · next hi => exact filter_append_behind ⟨index, none⟩ hi (ihn (index + 1) (i :: path))
  | element serial name children next ihc ihn =>
    cases path with
    | nil => simp [filter_isApart_nil]
    | cons i path =>
      -- the place leads into the element, perhaps no further, or to one behind it
      rw [refillFrom]
      split
      · next hi =>
        subst hi
        refine filter_cons_refill rfl ?_
          (filter_append_inside ⟨i, some name⟩ (fun _ => le_outermost) (ihc 0 path))
        simp [Element.refill, Element.place, Element.up, Forest.refill]
      · next hi =>
        exact filter_cons_refill rfl (Element.refill_of_outermost_ne (Ne.symm hi)).symm
          (filter_append_behind ⟨index, some name⟩ hi (ihn (index + 1) (i :: path)))

/-- What is not inside the refilled element is still there. -/
theorem mem_refill (he : e ∈ forest.elements) (h : ¬path <+: e.up) :
    e.refill path contents ∈ (forest.refill path contents).elements := by
  have hm : e.refill path contents ∈
      (forest.elements.filter (Element.isApart path)).map (Element.refill · path contents) :=
    List.mem_map_of_mem (List.mem_filter.mpr ⟨he, Element.isApart_iff.mpr h⟩)
  rw [elements, ← filter_refillFrom] at hm
  exact (List.mem_filter.mp hm).1

/-- The refilled element has the other contents. -/
theorem refill_self (nested : Element) (contents : Forest) :
    nested.refill nested.place contents = { nested with children := contents } := by
  simp [Element.refill, Forest.refill, refillFrom]

theorem mem_refill_self {nested : Element} (h : nested ∈ forest.elements) :
    { nested with children := contents } ∈ (forest.refill nested.place contents).elements := by
  rw [← refill_self]
  apply mem_refill h
  exact Element.not_place_prefix_up nested

/-- A choice among elements by what they stand in, which passes over all elements of a name and
what is inside them. -/
structure PassesOver (name : String) (choose : Element → Bool) : Prop where
  children : ∀ e children, choose { e with children } = choose e
  name_ne : ∀ e, choose e → e.name ≠ name
  above_ne : ∀ e, choose e → ∀ level ∈ e.above, level.name? ≠ some name

variable {nested outer : Element} {choose : Element → Bool}

/-- An element that is chosen is not inside one that is passed over. -/
theorem not_place_prefix_of_passesOver (hc : PassesOver nested.name choose)
    (hn : nested ∈ forest.elements) (he : e ∈ forest.elements) (hm : choose e) :
    ¬nested.place <+: e.place := by
  intro hp
  obtain rfl | ⟨inner, -, rfl⟩ := eq_or_below hn he hp
  · exact hc.name_ne _ hm rfl
  · refine hc.above_ne _ hm nested.level ?_ rfl
    simp [Element.below, Element.inside]

theorem filter_eq_filter_isApart (hc : PassesOver nested.name choose) (hn : nested ∈ forest.elements) :
    forest.elements.filter choose =
      (forest.elements.filter (Element.isApart nested.place)).filter choose := by
  rw [List.filter_filter]
  refine List.filter_congr fun e he => ?_
  cases hm : choose e
  · rfl
  · have hp := not_place_prefix_of_passesOver hc hn he hm
    exact (Element.isApart_of_place hp).symm

/-- With other contents in an element that is passed over, the same elements are chosen. -/
theorem filter_refill (hc : PassesOver nested.name choose) (hn : nested ∈ forest.elements) :
    (forest.refill nested.place contents).elements.filter choose =
      (forest.elements.filter choose).map (Element.refill · nested.place contents) := by
  have hchoose : (choose <| Element.refill · nested.place contents) = choose :=
    funext fun e => hc.children e _
  let refilled : Element := { nested with children := contents }
  have hr : refilled ∈ (forest.refill nested.place contents).elements := mem_refill_self hn
  have hp : refilled.place = nested.place := rfl
  have hc' : PassesOver refilled.name choose := hc
  rw [filter_eq_filter_isApart hc' hr, hp, filter_eq_filter_isApart hc hn, Forest.refill, elements,
    filter_refillFrom, List.filter_map]
  exact congrArg _ (congrFun (congrArg _ hchoose) _)

end Forest

namespace Element

variable {contents forest : Forest} {nested outer e : Element} {choose : Element → Bool}

def inner (choose : Element → Bool) (e : Element) : List Element :=
  (e.children.elements.filter choose).map e.below

theorem inner_sublist (choose : Element → Bool) (h : outer ∈ forest.elements) :
    (outer.inner choose).Sublist forest.elements :=
  (List.filter_sublist.map _).trans (Forest.below_sublist h)

theorem not_place_prefix_of_mem_inner (hc : Forest.PassesOver nested.name choose)
    (hn : nested ∈ forest.elements) (ho : outer ∈ forest.elements)
    (hp : ¬nested.place <+: outer.place) (he : e ∈ outer.inner choose) :
    ¬nested.place <+: e.place := by
  obtain ⟨e, hm, rfl⟩ := List.mem_map.mp he
  obtain ⟨hm, hi⟩ := List.mem_filter.mp hm
  rw [place_below]
  intro hs
  obtain hx | hx := List.prefix_or_prefix_of_prefix hs (List.prefix_append _ _)
  · exact hp hx
  · obtain rfl | ⟨found, hf, rfl⟩ := Forest.eq_or_below ho hn hx
    · exact hp List.prefix_rfl
    · rw [place_below, List.prefix_append_right_inj] at hs
      have hc : Forest.PassesOver found.name choose := hc
      exact Forest.not_place_prefix_of_passesOver hc hf hm hi hs

/-- Inside an element that is not refilled as a whole the same elements are chosen. -/
theorem inner_refill (hc : Forest.PassesOver nested.name choose) (hn : nested ∈ forest.elements)
    (ho : outer ∈ forest.elements) (hp : ¬nested.place <+: outer.place) :
    (outer.refill nested.place contents).inner choose =
      (outer.inner choose).map (refill · nested.place contents) := by
  -- either the refilled element is inside this one, or nothing in this one is touched
  by_cases hx : outer.place <+: nested.place
  · obtain rfl | ⟨found, hf, rfl⟩ := Forest.eq_or_below ho hn hx
    · exact absurd List.prefix_rfl hp
    · have hc : Forest.PassesOver found.name choose := hc
      rw [inner, inner, place_below, children_refill, Forest.filter_refill hc hf, List.map_map,
        List.map_map]
      exact List.map_congr_left fun e _ => (refill_below outer e _).symm
  · rw [refill_eq_self hx]
    symm
    refine (List.map_congr_left fun e he => ?_).trans (List.map_id _)
    obtain ⟨e, -, rfl⟩ := List.mem_map.mp he
    apply refill_eq_self
    rw [place_below]
    exact fun hs => hx ((List.prefix_append _ _).trans hs)

end Element
end Html
end InstanceCatalog
