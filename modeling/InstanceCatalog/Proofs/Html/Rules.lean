import InstanceCatalog.Html.Document
import InstanceCatalog.Proofs.Html.Tableless

namespace InstanceCatalog
namespace Html

def Token.OpensNoTable (t : Token) : Prop := ∀ tag, t = .start tag → tag.name ≠ "table"

@[grind →]
theorem Token.OpensNoTable.name_ne {tag : Tag} (h : (Token.start tag).OpensNoTable) :
    tag.name ≠ "table" := h tag rfl

@[grind ←]
theorem Token.opensNoTable_start {tag : Tag} (h : tag.name ≠ "table") :
    (Token.start tag).OpensNoTable := by
  rintro _ ⟨⟩
  exact h

@[grind .]
theorem Token.opensNoTable_finish (tag : Tag) : (Token.finish tag).OpensNoTable := by
  rintro _ ⟨⟩

@[grind .]
theorem Token.opensNoTable_char (c : Char) : (Token.char c).OpensNoTable := by
  rintro _ ⟨⟩

namespace Draft
namespace Tableless

variable {d : Draft} {t : Token}

-- No goal here has arithmetic in it, so the searches below leave out the solvers for it.

theorem ofIte {c : Prop} [Decidable c] {first second : Step} (hf : c → first.1.Tableless)
    (hs : second.1.Tableless) : (if c then first else second).1.Tableless := by
  split
  · next hc => exact hf hc
  · exact hs

/-! ## Heads -/

@[grind ←]
theorem openRaw (h : d.Tableless) {name : String} (hn : name ≠ "table") (mode : LexMode) :
    (d.openRaw name mode).1.Tableless := (h.openTag hn).otherFields ..

@[grind ←]
theorem openTemplate (h : d.Tableless) : d.openTemplate.Tableless :=
  ((h.openTag (by decide)).withMarker.noFrameset).otherFields ..

@[grind ←]
theorem closeTemplate (h : d.Tableless) : d.closeTemplate.Tableless := by
  unfold Draft.closeTemplate
  grind -ring -linarith

@[grind ←]
theorem inHead (h : d.Tableless) (ht : t.OpensNoTable) : (d.inHead t).1.Tableless := by
  unfold Draft.inHead
  cases t <;> grind -ring -linarith [done]

theorem initial (h : d.Tableless) : (d.initial t).1.Tableless := by
  unfold Draft.initial
  cases t <;> grind -ring -linarith [done]

theorem beforeHtml (h : d.Tableless) : (d.beforeHtml t).1.Tableless := by
  unfold Draft.beforeHtml
  cases t <;> grind -ring -linarith [done]

@[grind ←]
theorem openHead (h : d.Tableless) : d.openHead.Tableless := by
  have hi : (d.insertNew .html "head").1.Tableless := h.insertNew .html (by decide)
  exact hi.otherFields ..

theorem beforeHead (h : d.Tableless) : (d.beforeHead t).1.Tableless := by
  unfold Draft.beforeHead
  cases t <;> grind -ring -linarith [done]

@[grind ←]
theorem backInHead (h : d.Tableless) (ht : t.OpensNoTable) : (d.backInHead t).1.Tableless := by
  unfold Draft.backInHead
  split
  · exact h
  · exact ((h.withStack _).inHead ht).closeElement _

theorem afterHead (h : d.Tableless) (ht : t.OpensNoTable) : (d.afterHead t).1.Tableless := by
  unfold Draft.afterHead
  cases t <;> grind -ring -linarith [done]

theorem inText (h : d.Tableless) : (d.inText t).1.Tableless := by
  unfold Draft.inText
  cases t <;> grind -ring -linarith [done]

/-! ## Bodies -/

@[grind ←]
theorem closeItem (h : d.Tableless) (names : List String) : (d.closeItem names).Tableless := by
  unfold Draft.closeItem
  grind -ring -linarith

@[grind ←]
theorem openItem (h : d.Tableless) {name : String} (hn : name ≠ "table") :
    (d.openItem name).Tableless := by
  unfold Draft.openItem
  grind -ring -linarith

@[grind ←]
theorem openForm (h : d.Tableless) : d.openForm.Tableless := by
  unfold Draft.openForm
  grind -ring -linarith

@[grind ←]
theorem closeForm (h : d.Tableless) : d.closeForm.Tableless := by
  unfold Draft.closeForm
  grind -ring -linarith

@[grind ←]
theorem openForeign (h : d.Tableless) (space : Namespace) {tag : Tag} (ht : tag.name ≠ "table") :
    (d.openForeign space tag).Tableless := by
  unfold Draft.openForeign
  grind -ring -linarith

@[grind ←]
theorem replaceBody (h : d.Tableless) : d.replaceBody.Tableless := by
  unfold Draft.replaceBody
  split
  · exact (((h.detach _).withStack _).openTag (by decide)).withMode _
  · exact h

@[grind ←]
theorem openSelect (h : d.Tableless) : d.openSelect.Tableless :=
  (h.reconstruct.openTag (by decide)).noFrameset.withMode _

@[grind ←]
theorem insertBreak (h : d.Tableless) {name : String} (hn : name ≠ "table") :
    (d.insertBreak name).Tableless := (h.reconstruct.insertVoid hn).noFrameset

@[grind ←]
theorem openNobr (h : d.Tableless) {tag : Tag} (ht : tag.name ≠ "table") :
    (d.openNobr tag).Tableless := by
  unfold Draft.openNobr
  grind -ring -linarith

@[grind ←]
theorem openButton (h : d.Tableless) : d.openButton.Tableless := by
  unfold Draft.openButton
  grind -ring -linarith

@[grind ←]
theorem bodyStart (h : d.Tableless) {tag : Tag} (ht : tag.name ≠ "table") :
    (d.bodyStart tag).1.Tableless := by
  have hi := h.inHead (Token.opensNoTable_start ht)
  have hn : (if tag.name == "image" then "img" else tag.name) ≠ "table" := by
    split
    · decide
    · exact ht
  unfold Draft.bodyStart
  simp only
  generalize (if tag.name == "image" then "img" else tag.name) = name at hn ⊢
  repeat' with_reducible refine ofIte (fun _ => ?_) ?_
  all_goals grind -ring -linarith [done]

@[grind ←]
theorem bodyFinish (h : d.Tableless) (tag : Tag) : (d.bodyFinish tag).1.Tableless := by
  unfold Draft.bodyFinish
  simp only
  repeat' with_reducible refine ofIte (fun _ => ?_) ?_
  all_goals grind -ring -linarith [done]

@[grind ←]
theorem endInTemplate (h : d.Tableless) : d.endInTemplate.1.Tableless := by
  unfold Draft.endInTemplate
  grind -ring -linarith [done]

@[grind ←]
theorem inBody (h : d.Tableless) (ht : t.OpensNoTable) : (d.inBody t).1.Tableless := by
  unfold Draft.inBody
  cases t with
  | start tag => exact h.bodyStart (ht tag rfl)
  | _ => grind -ring -linarith [done]

@[grind ←]
theorem fosterInBody (h : d.Tableless) (ht : t.OpensNoTable) : (d.fosterInBody t).1.Tableless :=
  ((h.otherFields ..).inBody ht).otherFields ..

/-! ## Tables and selections -/

@[grind ←]
theorem closeTable (h : d.Tableless) : d.closeTable.Tableless := h.popThrough _

@[grind ←]
theorem textInTable (h : d.Tableless) (ht : t.OpensNoTable) : (d.textInTable t).1.Tableless := by
  unfold Draft.textInTable
  grind -ring -linarith

@[grind ←]
theorem tableStart (h : d.Tableless) {tag : Tag} (ht : tag.name ≠ "table") :
    (d.tableStart tag).1.Tableless := by
  unfold Draft.tableStart
  simp only
  repeat' with_reducible refine ofIte (fun _ => ?_) ?_
  all_goals grind -ring -linarith [done]

@[grind ←]
theorem tableFinish (h : d.Tableless) (tag : Tag) : (d.tableFinish tag).1.Tableless := by
  unfold Draft.tableFinish
  simp only
  repeat' with_reducible refine ofIte (fun _ => ?_) ?_
  all_goals grind -ring -linarith [done]

@[grind ←]
theorem inTable (h : d.Tableless) (ht : t.OpensNoTable) : (d.inTable t).1.Tableless := by
  unfold Draft.inTable
  cases t with
  | start tag => exact h.tableStart (ht tag rfl)
  | _ => grind -ring -linarith [done]

theorem insertChars (h : d.Tableless) (s : Text) : (s.foldl Draft.insertChar d).Tableless := by
  induction s generalizing d with
  | nil => exact h
  | cons c rest ih => exact ih (h.insertChar c)

theorem fosterChars (h : d.Tableless) (s : Text) :
    (s.foldl (fun d c => (d.fosterInBody (.char c)).1) d).Tableless := by
  induction s generalizing d with
  | nil => exact h
  | cons c rest ih => exact ih (h.fosterInBody (Token.opensNoTable_char c))

@[grind ←]
theorem placeTableText (h : d.Tableless) : d.placeTableText.Tableless := by
  unfold Draft.placeTableText
  simp only
  split
  · exact insertChars (h.otherFields ..) _
  · exact fosterChars (h.otherFields ..) _

theorem inTableText (h : d.Tableless) : (d.inTableText t).1.Tableless := by
  unfold Draft.inTableText
  cases t <;> grind -ring -linarith [done]

@[grind ←]
theorem captionEnd (h : d.Tableless) : d.captionEnd.Tableless :=
  ((h.closeImplied _).popThrough _).clearToMarker

theorem inCaption (h : d.Tableless) (ht : t.OpensNoTable) : (d.inCaption t).1.Tableless := by
  unfold Draft.inCaption
  cases t <;> grind -ring -linarith [done]

theorem inColumnGroup (h : d.Tableless) (ht : t.OpensNoTable) :
    (d.inColumnGroup t).1.Tableless := by
  unfold Draft.inColumnGroup
  cases t <;> grind -ring -linarith [done]

@[grind ←]
theorem groupEnd (h : d.Tableless) : d.groupEnd.1.Tableless := by
  unfold Draft.groupEnd
  grind -ring -linarith [done]

theorem inTableBody (h : d.Tableless) (ht : t.OpensNoTable) : (d.inTableBody t).1.Tableless := by
  unfold Draft.inTableBody
  cases t <;> grind -ring -linarith [done]

@[grind ←]
theorem closeRow (h : d.Tableless) : d.closeRow.Tableless := (h.popTo _).pop

theorem inRow (h : d.Tableless) (ht : t.OpensNoTable) : (d.inRow t).1.Tableless := by
  unfold Draft.inRow
  cases t <;> grind -ring -linarith [done]

theorem inCell (h : d.Tableless) (ht : t.OpensNoTable) : (d.inCell t).1.Tableless := by
  unfold Draft.inCell
  cases t <;> grind -ring -linarith [done]

@[grind ←]
theorem closeSelect (h : d.Tableless) : d.closeSelect.Tableless := h.popThrough _

@[grind ←]
theorem closeOption (h : d.Tableless) : d.closeOption.Tableless := by
  unfold Draft.closeOption
  grind -ring -linarith

@[grind ←]
theorem closeOptionGroup (h : d.Tableless) : d.closeOptionGroup.Tableless := by
  unfold Draft.closeOptionGroup
  grind -ring -linarith

@[grind ←]
theorem inSelect (h : d.Tableless) (ht : t.OpensNoTable) : (d.inSelect t).1.Tableless := by
  unfold Draft.inSelect
  cases t <;> grind -ring -linarith [done]

theorem inSelectInTable (h : d.Tableless) (ht : t.OpensNoTable) :
    (d.inSelectInTable t).1.Tableless := by
  unfold Draft.inSelectInTable
  cases t <;> grind -ring -linarith [done]

/-! ## The remaining modes -/

@[grind ←]
theorem templateAgain (h : d.Tableless) (mode : Mode) : (d.templateAgain mode).1.Tableless :=
  h.otherFields ..

theorem inTemplate (h : d.Tableless) (ht : t.OpensNoTable) : (d.inTemplate t).1.Tableless := by
  unfold Draft.inTemplate
  cases t <;> grind -ring -linarith [done]

theorem afterBody (h : d.Tableless) (ht : t.OpensNoTable) : (d.afterBody t).1.Tableless := by
  unfold Draft.afterBody
  cases t <;> grind -ring -linarith [done]

theorem inFrameset (h : d.Tableless) (ht : t.OpensNoTable) : (d.inFrameset t).1.Tableless := by
  unfold Draft.inFrameset
  cases t <;> grind -ring -linarith [done]

theorem afterFrameset (h : d.Tableless) (ht : t.OpensNoTable) :
    (d.afterFrameset t).1.Tableless := by
  unfold Draft.afterFrameset
  cases t <;> grind -ring -linarith [done]

theorem afterAfterBody (h : d.Tableless) (ht : t.OpensNoTable) :
    (d.afterAfterBody t).1.Tableless := by
  unfold Draft.afterAfterBody
  cases t <;> grind -ring -linarith [done]

theorem afterAfterFrameset (h : d.Tableless) (ht : t.OpensNoTable) :
    (d.afterAfterFrameset t).1.Tableless := by
  unfold Draft.afterAfterFrameset
  cases t <;> grind -ring -linarith [done]

/-- In every mode a token that opens no table makes none. -/
@[grind ←]
theorem step (h : d.Tableless) (ht : t.OpensNoTable) (mode : Mode) :
    (Draft.step mode d t).1.Tableless := by
  cases mode with
  | initial => exact h.initial
  | beforeHtml => exact h.beforeHtml
  | beforeHead => exact h.beforeHead
  | inHead => exact h.inHead ht
  | afterHead => exact h.afterHead ht
  | inBody => exact h.inBody ht
  | text => exact h.inText
  | inTable => exact h.inTable ht
  | inTableText => exact h.inTableText
  | inCaption => exact h.inCaption ht
  | inColumnGroup => exact h.inColumnGroup ht
  | inTableBody => exact h.inTableBody ht
  | inRow => exact h.inRow ht
  | inCell => exact h.inCell ht
  | inSelect => exact h.inSelect ht
  | inSelectInTable => exact h.inSelectInTable ht
  | inTemplate => exact h.inTemplate ht
  | afterBody => exact h.afterBody ht
  | inFrameset => exact h.inFrameset ht
  | afterFrameset => exact h.afterFrameset ht
  | afterAfterBody => exact h.afterAfterBody ht
  | afterAfterFrameset => exact h.afterAfterFrameset ht

/-! ## Elements outside HTML -/

theorem foreignStart (h : d.Tableless) {tag : Tag} (ht : tag.name ≠ "table") :
    (d.foreignStart tag).Tableless := by
  unfold Draft.foreignStart
  split
  · apply h.openForeign
    split
    · exact (by decide : "foreignObject" ≠ "table")
    · exact ht
  · exact h.openForeign _ ht
  · exact h

theorem foreignFinish (h : d.Tableless) (tag : Tag) (isFirst : Bool) (stack : List Nat) :
    (d.foreignFinish tag isFirst stack).1.Tableless := by
  fun_induction Draft.foreignFinish d tag isFirst stack with
  | case1 => exact h
  | case2 => exact h
  | case3 _ _ _ _ _ ih => exact ih
  | case4 => exact h.step (Token.opensNoTable_finish tag) _
  | case5 => exact h.withStack _
  | case6 _ _ _ _ _ _ _ _ _ ih => exact ih

theorem foreignStep (h : d.Tableless) (ht : t.OpensNoTable) : (d.foreignStep t).1.Tableless := by
  unfold Draft.foreignStep
  cases t with
  | start tag =>
    simp only
    split
    · exact h.withStack _
    · exact h.foreignStart (ht tag rfl)
  | finish tag => exact h.foreignFinish tag true d.stack
  | _ => grind -ring -linarith [done]

/-! ## Tokens -/

theorem handleWithin (h : d.Tableless) (ht : t.OpensNoTable) (looks : Nat) :
    (Draft.handleWithin looks d t).1.Tableless := by
  induction looks generalizing d with
  | zero => exact h
  | succ looks ih =>
    have hs : (if d.isForeign t then d.foreignStep t else Draft.step d.mode d t).1.Tableless :=
      ofIte (fun _ => h.foreignStep ht) (h.step ht _)
    unfold Draft.handleWithin
    split
    · next he =>
      rw [he] at hs
      exact hs
    · next he =>
      rw [he] at hs
      exact ih (hs.withMode _)
    · next he =>
      rw [he] at hs
      exact ih hs
    · next he =>
      rw [he] at hs
      exact hs

theorem accept (h : d.Tableless) (ht : t.OpensNoTable) : (d.accept t).1.Tableless := by
  unfold Draft.accept
  split
  · simp only
    split
    · exact h.otherFields ..
    · exact h.otherFields ..
  · unfold Draft.handle
    simp only
    split
    · split
      · exact h.otherFields ..
      · exact handleWithin (h.otherFields ..) ht _
    · exact handleWithin (h.otherFields ..) ht _

theorem acceptAll (h : d.Tableless) {tokens : List Token} (ht : ∀ t ∈ tokens, t.OpensNoTable)
    (mode : LexMode) : (d.acceptAll mode tokens).1.Tableless := by
  induction tokens generalizing d mode with
  | nil => exact h
  | cons t rest ih =>
    obtain ⟨hf, hr⟩ := List.forall_mem_cons.mp ht
    exact ih (h.accept hf) hr _

end Tableless
end Draft
end Html
end InstanceCatalog
