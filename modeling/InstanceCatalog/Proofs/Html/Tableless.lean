import InstanceCatalog.Html.Draft.Formatting

namespace InstanceCatalog
namespace Html
namespace Draft

structure Tableless (d : Draft) : Prop where
  nodes : ∀ node ∈ d.nodes, ∀ space, node.kind ≠ .element space "table"
  formatting : ∀ id tag, .element id tag ∈ d.formatting → tag.name ≠ "table"

def Adoption.draft : Adoption → Draft
  | finished d => d
  | again d => d

theorem tableless_empty : empty.Tableless := by
  constructor
  · intro node hn space
    simp only [empty, List.mem_toArray, List.mem_singleton] at hn
    simp [hn]
  · simp [empty]

namespace Tableless

variable {d : Draft}

/-- Nodes may change in all but what elements they are. -/
theorem modify (h : d.Tableless) (id : Nat) {f : DraftNode → DraftNode}
    (hf : ∀ node space, (f node).kind = .element space "table" →
      node.kind = .element space "table") :
    { d with nodes := d.nodes.modify id f }.Tableless := by
  refine ⟨fun node hn space hk => ?_, h.formatting⟩
  obtain ⟨i, hi, rfl⟩ := Array.mem_iff_getElem.mp hn
  simp only [Array.size_modify] at hi
  simp only [Array.getElem_modify] at hk
  split at hk
  · exact h.nodes _ (Array.getElem_mem hi) space (hf _ _ hk)
  · exact h.nodes _ (Array.getElem_mem hi) space hk

theorem add (h : d.Tableless) {kind : NodeKind} (hk : ∀ space, kind ≠ .element space "table") :
    (d.add kind).1.Tableless := by
  refine ⟨fun node hn space => ?_, h.formatting⟩
  rcases Array.mem_push.mp hn with hn | rfl
  · exact h.nodes node hn space
  · exact hk space

theorem setParent (h : d.Tableless) (id : Nat) (parent : Option Nat) :
    (d.setParent id parent).Tableless := h.modify id fun _ _ hk => hk

theorem setChildren (h : d.Tableless) (id : Nat) (change : Array Nat → Array Nat) :
    (d.setChildren id change).Tableless := h.modify id fun _ _ hk => hk

@[grind ←]
theorem detach (h : d.Tableless) (id : Nat) : (d.detach id).Tableless := by
  unfold Draft.detach
  split
  · exact h
  · exact (h.setChildren _ _).setParent _ _

theorem append (h : d.Tableless) (parent id : Nat) : (d.append parent id).Tableless :=
  ((h.detach id).setChildren _ _).setParent _ _

theorem insertBefore (h : d.Tableless) (sibling id : Nat) :
    (d.insertBefore sibling id).Tableless := by
  unfold Draft.insertBefore
  simp only
  split
  · exact h.detach id
  · exact ((h.detach id).setChildren _ _).setParent _ _

theorem extendText (h : d.Tableless) (id : Nat) (c : Char) : (d.extendText id c).Tableless := by
  apply h.modify id
  intro node space hk
  split at hk
  · cases hk
  · exact hk

theorem put (h : d.Tableless) (place : Place) (id : Nat) : (d.put place id).Tableless := by
  cases place with
  | lastIn parent => exact h.append parent id
  | before sibling => exact h.insertBefore sibling id

theorem putChar (h : d.Tableless) (place : Place) (c : Char) : (d.putChar place c).Tableless := by
  have ht : (d.add (.text [c])).1.Tableless := h.add (by simp)
  unfold Draft.putChar
  split
  · split
    · exact h.extendText _ c
    · exact ht.put _ _
  · exact ht.put _ _

theorem moveChildren (h : d.Tableless) (source target : Nat) :
    (d.moveChildren source target).Tableless := by
  unfold Draft.moveChildren
  simp only
  apply Array.foldl_induction (motive := fun _ d => Tableless d)
  · exact (h.setChildren _ _).setChildren _ _
  · intro i d h
    exact h.setParent _ _

/-- Only the nodes and the formatting elements matter. -/
@[grind ←]
theorem otherFields (h : d.Tableless) (stack : List Nat) (mode returnMode : Mode)
    (templateModes : List Mode) (head form : Option Nat)
    (framesetOk fostering oldStyle ignoreLineFeed : Bool) (tableText : Text) :
    Tableless ⟨d.nodes, stack, d.formatting, mode, returnMode, templateModes, head, form,
      framesetOk, fostering, oldStyle, ignoreLineFeed, tableText⟩ := ⟨h.nodes, h.formatting⟩

theorem withStack (h : d.Tableless) (stack : List Nat) : { d with stack }.Tableless :=
  ⟨h.nodes, h.formatting⟩

@[grind ←]
theorem pop (h : d.Tableless) : d.pop.Tableless := h.withStack _

@[grind ←]
theorem popThrough (h : d.Tableless) (names : List String) : (d.popThrough names).Tableless :=
  h.withStack _

@[grind ←]
theorem popTo (h : d.Tableless) (names : List String) : (d.popTo names).Tableless := h.withStack _

@[grind ←]
theorem closeImplied (h : d.Tableless) (names : List String) : (d.closeImplied names).Tableless :=
  h.withStack _

@[grind ←]
theorem closeImpliedExcept (h : d.Tableless) (name : String) :
    (d.closeImpliedExcept name).Tableless := h.closeImplied _

@[grind ←]
theorem closeElement (h : d.Tableless) (id : Nat) : (d.closeElement id).Tableless := h.withStack _

@[grind ←]
theorem closeParagraph (h : d.Tableless) : d.closeParagraph.Tableless :=
  (h.closeImpliedExcept _).popThrough _

@[grind ←]
theorem closeParagraphInScope (h : d.Tableless) : d.closeParagraphInScope.Tableless := by
  unfold Draft.closeParagraphInScope
  split
  · exact h.closeParagraph
  · exact h

@[grind ←]
theorem withMode (h : d.Tableless) (mode : Mode) : (d.withMode mode).Tableless :=
  ⟨h.nodes, h.formatting⟩

@[grind ←]
theorem noFrameset (h : d.Tableless) : d.noFrameset.Tableless := ⟨h.nodes, h.formatting⟩

theorem make (h : d.Tableless) (space : Namespace) {name : String} (hn : name ≠ "table") :
    (d.make space name).1.Tableless := by
  have he : (d.add (.element space name)).1.Tableless := h.add (by simp [hn])
  unfold Draft.make
  simp only
  split
  · exact (he.add (by simp)).append _ _
  · exact he

@[grind ←]
theorem insertOnly (h : d.Tableless) (space : Namespace) {name : String} (hn : name ≠ "table") :
    (d.insertOnly space name).1.Tableless := (h.make space hn).put _ _

@[grind ←]
theorem insertNew (h : d.Tableless) (space : Namespace) {name : String} (hn : name ≠ "table") :
    (d.insertNew space name).1.Tableless := (h.insertOnly space hn).withStack _

@[grind ←]
theorem openTag (h : d.Tableless) {name : String} (hn : name ≠ "table") :
    (d.openTag name).Tableless := h.insertNew .html hn

@[grind ←]
theorem insertVoid (h : d.Tableless) {name : String} (hn : name ≠ "table") :
    (d.insertVoid name).Tableless := h.insertOnly .html hn

@[grind ←]
theorem insertChar (h : d.Tableless) (c : Char) : (d.insertChar c).Tableless := h.putChar _ c

@[grind ←]
theorem insertComment (h : d.Tableless) : d.insertComment.Tableless := (h.add (by simp)).put _ _

@[grind ←]
theorem appendComment (h : d.Tableless) (parent : Nat) : (d.appendComment parent).Tableless :=
  (h.add (by simp)).append _ _

@[grind ←]
theorem openRoot (h : d.Tableless) : d.openRoot.Tableless :=
  ((h.add (by simp)).append _ _).withStack _

theorem withFormatting (h : d.Tableless) {formatting : List FormatEntry}
    (hf : ∀ entry ∈ formatting, entry ∈ d.formatting) : { d with formatting }.Tableless :=
  ⟨h.nodes, fun id tag hm => h.formatting id tag (hf _ hm)⟩

@[grind ←]
theorem withMarker (h : d.Tableless) : d.withMarker.Tableless := by
  refine ⟨h.nodes, fun id tag hm => h.formatting id tag ?_⟩
  simpa [Draft.withMarker] using hm

@[grind ←]
theorem clearToMarker (h : d.Tableless) : d.clearToMarker.Tableless :=
  h.withFormatting fun _ hm => (List.dropWhile_suffix _).subset (List.drop_subset 1 _ hm)

@[grind ←]
theorem closeCell (h : d.Tableless) : d.closeCell.Tableless :=
  ((h.closeImplied _).popThrough _).clearToMarker

@[grind ←]
theorem dropEntry (h : d.Tableless) (id : Nat) : (d.dropEntry id).Tableless :=
  h.withFormatting fun _ hm => List.mem_of_mem_eraseP hm

theorem replaceEntry (h : d.Tableless) (id new : Nat) {tag : Tag} (ht : tag.name ≠ "table") :
    (d.replaceEntry id (.element new tag)).Tableless := by
  refine ⟨h.nodes, fun id' tag' hm => ?_⟩
  obtain ⟨e, he, hs⟩ := List.mem_map.mp hm
  split at hs
  · cases hs
    exact ht
  · exact h.formatting id' tag' (hs ▸ he)

theorem addEntryAfter (h : d.Tableless) (id new : Nat) {tag : Tag} (ht : tag.name ≠ "table") :
    (d.addEntryAfter id (.element new tag)).Tableless := by
  refine ⟨h.nodes, fun id' tag' hm => ?_⟩
  obtain ⟨e, he, hs⟩ := List.mem_flatMap.mp hm
  split at hs
  · rcases List.mem_cons.mp hs with hs | hs
    · cases hs
      exact ht
    · exact h.formatting id' tag' (List.mem_singleton.mp hs ▸ he)
  · exact h.formatting id' tag' (List.mem_singleton.mp hs ▸ he)

theorem scopeEntries (h : d.Tableless) {entry : Nat × Tag}
    (he : entry ∈ Draft.scopeEntries d.formatting) : entry.2.name ≠ "table" := by
  obtain ⟨e, hm, hs⟩ := List.mem_filterMap.mp he
  have hd := (List.takeWhile_prefix _).subset hm
  split at hs
  · cases hs
    exact h.formatting _ _ hd
  · cases hs

theorem entryTag? (h : d.Tableless) {id : Nat} {tag : Tag} (ht : d.entryTag? id = some tag) :
    tag.name ≠ "table" := by
  obtain ⟨e, hm, hs⟩ := List.exists_of_findSome?_eq_some ht
  split at hs
  · split at hs
    · cases hs
      exact h.formatting _ _ hm
    · cases hs
  · cases hs

theorem reopen (h : d.Tableless) {entries : List FormatEntry}
    (he : ∀ id tag, .element id tag ∈ entries → tag.name ≠ "table") :
    (d.reopen entries).Tableless := by
  induction entries generalizing d with
  | nil => exact h
  | cons entry rest ih =>
    have hr : ∀ id tag, .element id tag ∈ rest → tag.name ≠ "table" :=
      fun id tag hm => he id tag (List.mem_cons_of_mem _ hm)
    cases entry with
    | marker => exact ih h hr
    | element id tag =>
      have ht := he id tag List.mem_cons_self
      exact ih ((h.insertNew .html ht).replaceEntry _ _ ht) hr

@[grind ←]
theorem reconstruct (h : d.Tableless) : d.reconstruct.Tableless := by
  apply h.reopen
  intro id tag hm
  exact h.formatting id tag ((List.takeWhile_prefix _).subset (List.mem_reverse.mp hm))

@[grind ←]
theorem openFormatting (h : d.Tableless) {tag : Tag} (ht : tag.name ≠ "table") :
    (d.openFormatting tag).Tableless := by
  have hnew : ∀ d : Draft, d.Tableless →
      { (d.insertNew .html tag.name).1 with
        formatting := .element (d.insertNew .html tag.name).2 tag ::
          (d.insertNew .html tag.name).1.formatting }.Tableless := by
    intro d h
    have hi := h.insertNew .html ht
    refine ⟨hi.nodes, fun id tag' hm => ?_⟩
    rcases List.mem_cons.mp hm with hm | hm
    · cases hm
      exact ht
    · exact hi.formatting id tag' hm
  unfold Draft.openFormatting
  apply hnew
  split
  · split
    · exact h.dropEntry _
    · exact h
  · exact h

@[grind ←]
theorem closeAny (h : d.Tableless) (name : String) : (d.closeAny name).Tableless := by
  unfold Draft.closeAny
  simp only
  split
  · exact h
  · split
    · exact h.withStack _
    · exact h

theorem rewrap {r : Rewrapped} (h : r.draft.Tableless) (furthest walked : Nat) (between : List Nat) :
    (Draft.rewrap furthest walked r between).draft.Tableless := by
  induction between generalizing walked r with
  | nil => exact h
  | cons id outer ih =>
    unfold Draft.rewrap
    split
    · exact ih h _
    · next tag ht =>
      have hn := h.entryTag? ht
      split
      · exact ih (h.dropEntry id) _
      · exact ih (((h.make .html hn).replaceEntry _ _ hn).append _ _) _

theorem copyInto (h : d.Tableless) (furthest : Nat) {name : String} (hn : name ≠ "table") :
    (((d.make .html name).1.moveChildren furthest (d.make .html name).2).append furthest
      (d.make .html name).2).Tableless :=
  ((h.make .html hn).moveChildren _ _).append _ _

theorem adopt (h : d.Tableless) (id : Nat) {tag : Tag} (ht : tag.name ≠ "table")
    (inner : List Nat) (furthest : Nat) (between outer : List Nat) :
    (d.adopt id tag inner furthest between outer).Tableless := by
  have hr : (Draft.rewrap furthest 0 ⟨d, [], furthest, none⟩ between).draft.Tableless :=
    rewrap h furthest 0 between
  unfold Draft.adopt
  simp only
  split
  · exact ((((hr.detach _).put _ _).copyInto furthest ht).replaceEntry _ _ ht).withStack _
  · exact (((((hr.detach _).put _ _).copyInto furthest ht).addEntryAfter _ _ ht).dropEntry
      _).withStack _

theorem adoptRound (h : d.Tableless) (name : String) :
    (d.adoptRound name).draft.Tableless := by
  unfold Draft.adoptRound
  split
  · exact h.closeAny name
  · next id tag hf =>
    have ht := h.scopeEntries (List.mem_of_find?_eq_some hf)
    split
    · exact h.dropEntry id
    · split
      · exact h
      · simp only
        split
        · exact (h.dropEntry id).withStack _
        · exact h.adopt id ht _ _ _ _

theorem adoptRounds (h : d.Tableless) (name : String) (rounds : Nat) :
    (Draft.adoptRounds name rounds d).Tableless := by
  induction rounds generalizing d with
  | zero => exact h
  | succ rounds ih =>
    have hr := h.adoptRound name
    unfold Draft.adoptRounds
    split
    · next he =>
      rw [he] at hr
      exact hr
    · next he =>
      rw [he] at hr
      exact ih hr

@[grind ←]
theorem closeFormatting (h : d.Tableless) (name : String) : (d.closeFormatting name).Tableless := by
  unfold Draft.closeFormatting
  split
  · split
    · exact h.pop
    · exact h.adoptRounds name 8
  · exact h.adoptRounds name 8

@[grind ←]
theorem closeOpenLink (h : d.Tableless) : d.closeOpenLink.Tableless := by
  unfold Draft.closeOpenLink
  split
  · exact h
  · exact ((h.closeFormatting _).dropEntry _).closeElement _

end Tableless
end Draft
end Html
end InstanceCatalog
