import InstanceCatalog.Proofs.Html.Elements

namespace InstanceCatalog
namespace Html

namespace Element

def up (e : Element) : List Nat := e.above.map (·.index)

/-- The numbers of siblings passed by on the way to an element, from the outside inwards. -/
def place (e : Element) : List Nat := e.up ++ [e.index]

def below (outer e : Element) : Element := { e with above := outer.inside ++ e.above }

theorem place_below (outer e : Element) : (outer.below e).place = outer.place ++ e.place := by
  simp [place, up, below, inside, level]

theorem map_index_inside (e : Element) : e.inside.map (·.index) = e.place := List.map_append

theorem not_place_prefix_up (e : Element) : ¬e.place <+: e.up := by
  intro h
  have hl := h.length_le
  rw [place, List.length_append] at hl
  exact Nat.not_succ_le_self _ hl

theorem place_within (level : Level) (e : Element) :
    (e.within level).place = level.index :: e.place := rfl

theorem place_ne_nil (e : Element) : e.place ≠ [] := List.concat_ne_nil _ _

/-- A place begins on the outermost level. -/
theorem place_eq_cons (e : Element) : ∃ rest, e.place = e.outermost :: rest := by
  obtain ⟨above, index, _, _, _⟩ := e
  cases above with
  | nil => exact ⟨[], rfl⟩
  | cons level above => exact ⟨_, rfl⟩

/-- A place that begins with that of an element passes by as many siblings on the outermost level. -/
theorem outermost_of_place_prefix {outer e : Element} (h : outer.place <+: e.place) :
    e.outermost = outer.outermost := by
  obtain ⟨rest, hr⟩ := e.place_eq_cons
  obtain ⟨others, ho⟩ := outer.place_eq_cons
  rw [hr, ho, List.cons_prefix_cons] at h
  exact h.1.symm

theorem place_prefix_within {level : Level} {outer e : Element} :
    (outer.within level).place <+: (e.within level).place ↔ outer.place <+: e.place := by
  rw [place_within, place_within, List.cons_prefix_cons, and_iff_right rfl]

/-- What stands in an element has a longer place. -/
theorem not_place_prefix_of_inside {outer e : Element} (h : outer.inside <+: e.above) :
    ¬e.place <+: outer.place := by
  intro hp
  have hl := h.length_le
  have hr := hp.length_le
  simp only [inside, place, up, List.length_append, List.length_map, List.length_singleton] at hl hr
  omega

end Element

namespace Forest

variable {forest : Forest} {index : Nat} {outer e : Element}

theorem within_below_sublist (level : Level) {inner : List Element} (later : List Element)
    (h : (outer.children.elements.map outer.below).Sublist inner) :
    (outer.children.elements.map (outer.within level).below).Sublist
      (inner.map (Element.within level) ++ later) := by
  have hs := h.map (Element.within level)
  rw [List.map_map] at hs
  exact hs.trans (List.sublist_append_left _ _)

/-- What is inside an element is met in document order, and at its place in the document. -/
theorem below_sublist (h : outer ∈ forest.elementsFrom index) :
    (outer.children.elements.map outer.below).Sublist (forest.elementsFrom index) := by
  induction forest generalizing index outer with
  | nil => cases h
  | text _ next ih => exact ih h
  | element serial name children next ihc ihn =>
    apply List.Sublist.cons
    rcases List.mem_cons.mp h with rfl | h
    · exact List.sublist_append_left _ _
    · rcases List.mem_append.mp h with h | h
      · obtain ⟨outer, ho, rfl⟩ := List.mem_map.mp h
        exact within_below_sublist ⟨index, some name⟩ _ (ihc ho)
      · exact (ihn h).trans (List.sublist_append_right _ _)
  | contents children next ihc ihn =>
    rcases List.mem_append.mp h with h | h
    · obtain ⟨outer, ho, rfl⟩ := List.mem_map.mp h
      exact within_below_sublist ⟨index, none⟩ _ (ihc ho)
    · exact (ihn h).trans (List.sublist_append_right _ _)

def PlacesNest (elements : List Element) : Prop :=
  ∀ outer ∈ elements, ∀ e ∈ elements, outer.place <+: e.place →
    e = outer ∨ ∃ inner ∈ outer.children.elements, e = outer.below inner

theorem PlacesNest.append (level : Level) {inner later : List Element} (hi : PlacesNest inner)
    (hl : PlacesNest later) (h : ∀ e ∈ later, level.index + 1 ≤ e.outermost) :
    PlacesNest (inner.map (Element.within level) ++ later) := by
  intro outer ho e he hp
  have hm := Element.outermost_of_place_prefix hp
  -- both stand inside the node or both behind it
  rcases List.mem_append.mp ho with ho | ho
  · have hx := outermost_of_mem_map ho
    rcases List.mem_append.mp he with he | he
    · obtain ⟨outer, hou, rfl⟩ := List.mem_map.mp ho
      obtain ⟨e, hin, rfl⟩ := List.mem_map.mp he
      rcases hi outer hou e hin (Element.place_prefix_within.mp hp) with rfl | ⟨found, hf, rfl⟩
      · exact .inl rfl
      · exact .inr ⟨found, hf, rfl⟩
    · have hb := h e he
      omega
  · rcases List.mem_append.mp he with he | he
    · have hx := outermost_of_mem_map he
      have hb := h outer ho
      omega
    · exact hl outer ho e he hp

theorem PlacesNest.cons {top : Element} {rest : List Element} (h : PlacesNest rest)
    (hi : ∀ e ∈ rest, top.place <+: e.place → ∃ inner ∈ top.children.elements, e = top.below inner)
    (ho : ∀ outer ∈ rest, ¬outer.place <+: top.place) : PlacesNest (top :: rest) := by
  intro outer hm e he hp
  rcases List.mem_cons.mp hm with rfl | hr
  · rcases List.mem_cons.mp he with rfl | he
    · exact .inl rfl
    · exact .inr (hi e he hp)
  · rcases List.mem_cons.mp he with rfl | he
    · exact absurd hp (ho outer hr)
    · exact h outer hr e he hp

theorem placesNest (index : Nat) (forest : Forest) : PlacesNest (forest.elementsFrom index) := by
  induction forest generalizing index with
  | nil => exact fun _ h => nomatch h
  | text _ next ih => exact ih (index + 1)
  | contents children next ihc ihn =>
    exact (ihc 0).append ⟨index, none⟩ (ihn (index + 1)) fun _ => le_outermost
  | element serial name children next ihc ihn =>
    refine ((ihc 0).append ⟨index, some name⟩ (ihn (index + 1)) fun _ => le_outermost).cons ?_ ?_
    · intro e he hp
      rcases List.mem_append.mp he with he | he
      · obtain ⟨e, hin, rfl⟩ := List.mem_map.mp he
        exact ⟨e, hin, rfl⟩
      · have hm : e.outermost = index := Element.outermost_of_place_prefix hp
        have hb := le_outermost he
        omega
    · intro outer ho hp
      rcases List.mem_append.mp ho with ho | ho
      · -- the shortest places are those of the outermost level
        obtain ⟨outer, -, rfl⟩ := List.mem_map.mp ho
        rw [Element.place_within] at hp
        exact outer.place_ne_nil (List.prefix_nil.mp (List.cons_prefix_cons.mp hp).2)
      · have hm : index = outer.outermost := Element.outermost_of_place_prefix hp
        have hb := le_outermost ho
        omega

theorem eq_or_below (ho : outer ∈ forest.elements) (he : e ∈ forest.elements)
    (hp : outer.place <+: e.place) :
    e = outer ∨ ∃ inner ∈ outer.children.elements, e = outer.below inner :=
  placesNest 0 forest outer ho e he hp

/-- What stands in an element is found among its children. -/
theorem exists_below (ho : outer ∈ forest.elements) (he : e ∈ forest.elements)
    (h : outer.inside <+: e.above) : ∃ inner ∈ outer.children.elements, e = outer.below inner := by
  have hp : outer.place <+: e.place := by
    have hm := h.map (·.index)
    rw [Element.map_index_inside] at hm
    exact hm.trans (List.prefix_append _ _)
  refine (eq_or_below ho he hp).resolve_left ?_
  rintro rfl
  exact Element.not_place_prefix_of_inside h List.prefix_rfl

/-- No two elements of a document have the same place. -/
theorem eq_of_place (ho : outer ∈ forest.elements) (he : e ∈ forest.elements)
    (hp : outer.place = e.place) : e = outer := by
  have hr : outer.place <+: e.place := hp ▸ List.prefix_rfl
  have hl : e.place <+: outer.place := hp ▸ List.prefix_rfl
  refine (eq_or_below ho he hr).resolve_right ?_
  rintro ⟨inner, -, rfl⟩
  exact Element.not_place_prefix_of_inside (List.prefix_append outer.inside inner.above) hl

end Forest
end Html
end InstanceCatalog
