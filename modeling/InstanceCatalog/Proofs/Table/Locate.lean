import InstanceCatalog.Proofs.Html.Lexing
import InstanceCatalog.Proofs.Html.Rules
import InstanceCatalog.Proofs.Text.Window
import InstanceCatalog.Table.Locate

namespace InstanceCatalog

namespace Table

theorem mentionsTableTag_iff {s : Text} :
    mentionsTableTag s = true ↔ '<' :: "table".toList <:+: s.map Char.toLower :=
  Text.occursIn_iff

theorem mentionsTableTag_of_suffix {s rest : Text} (h : rest <:+ s)
    (hm : mentionsTableTag rest = true) : mentionsTableTag s = true :=
  mentionsTableTag_iff.mpr ((mentionsTableTag_iff.mp hm).trans ((h.map Char.toLower).isInfix))

theorem map_toLower_eq_table {s : Text} (h : s.map Html.nameChar = "table".toList) :
    s.map Char.toLower = "table".toList := by
  rw [← h]
  refine List.map_congr_left fun c hc => ?_
  have hn : Html.nameChar c ∈ "table".toList := h ▸ List.mem_map_of_mem hc
  unfold Html.nameChar at hn ⊢
  split at hn
  · exact absurd hn (by decide)
  · next hz => rw [if_neg hz]

/-- A start tag has the name of a table only where the text reads so, up to case. -/
theorem mentionsTableTag_of_tagName {behind : Text} (h : Html.tagName behind = "table") :
    mentionsTableTag ('<' :: behind) = true := by
  have hn : (behind.takeWhile (!Html.endsName ·)).map Char.toLower = "table".toList :=
    map_toLower_eq_table (by rw [← h, Html.tagName, String.toList_ofList])
  have hs : behind.takeWhile (!Html.endsName ·) <+: behind := List.takeWhile_prefix _
  have hp := hs.map Char.toLower
  rw [hn] at hp
  rw [mentionsTableTag_iff, List.map_cons]
  exact (List.cons_prefix_cons.mpr ⟨rfl, hp⟩).isInfix

end Table

namespace Html

namespace Lexer

theorem opensNoTable_of_next? {mode : LexMode} {inForeign : Bool} {s : Text} {lexed : Lexed}
    (h : next? mode inForeign s = some lexed) (hs : ¬Table.mentionsTableTag s) :
    ∀ t ∈ lexed.tokens, t.OpensNoTable := by
  rintro t ht tag rfl hn
  obtain ⟨behind, hb, hg⟩ := (next?_reads h).start tag ht
  exact hs (Table.mentionsTableTag_of_suffix hb (Table.mentionsTableTag_of_tagName (hg ▸ hn)))

/-- Joining line breaks changes no start of a text up to its first line break. -/
theorem prefix_of_joinReturns {word s : Text} (hw : '\n' ∉ word)
    (h : word <+: (prepare.joinReturns s).map Char.toLower) : word <+: s.map Char.toLower := by
  induction s using prepare.joinReturns.induct generalizing word with
  | case1 rest ih =>
    cases word with
    | nil => exact List.nil_prefix
    | cons x word =>
      rw [prepare.joinReturns, List.map_cons, List.cons_prefix_cons] at h
      exact absurd (h.1 ▸ List.mem_cons_self) hw
  | case2 c rest hc ih =>
    cases word with
    | nil => exact List.nil_prefix
    | cons x word =>
      rw [prepare.joinReturns] at h
      · rw [List.map_cons, List.cons_prefix_cons] at h ⊢
        exact ⟨h.1, ih (fun hx => hw (List.mem_cons_of_mem x hx)) h.2⟩
      · exact hc
  | case3 => exact h

/-- Joining line breaks brings no two other characters together. -/
theorem infix_of_joinReturns {word s : Text} (hw : '\n' ∉ word)
    (h : word <:+: (prepare.joinReturns s).map Char.toLower) : word <:+: s.map Char.toLower := by
  induction s using prepare.joinReturns.induct with
  | case1 rest ih =>
    have hp := prefix_of_joinReturns (s := '\r' :: '\n' :: rest) hw
    rw [prepare.joinReturns, List.map_cons] at h hp
    rcases List.infix_cons_iff.mp h with h | h
    · exact (hp h).isInfix
    · exact (ih h).trans
        (((List.suffix_cons _ _).trans (List.suffix_cons _ _)).map Char.toLower).isInfix
  | case2 c rest hc ih =>
    have hp := prefix_of_joinReturns (s := c :: rest) hw
    rw [prepare.joinReturns.eq_2 _ _ hc, List.map_cons] at h hp
    rcases List.infix_cons_iff.mp h with h | h
    · exact (hp h).isInfix
    · exact (ih h).trans (List.suffix_cons _ _).isInfix
  | case3 => exact h

theorem mentionsTableTag_of_prepare {s : Text} (h : Table.mentionsTableTag (prepare s) = true) :
    Table.mentionsTableTag s = true := by
  have hj := infix_of_joinReturns (by decide) (Table.mentionsTableTag_iff.mp h)
  split at hj
  · exact Table.mentionsTableTag_of_suffix (List.suffix_cons _ _) (Table.mentionsTableTag_iff.mpr hj)
  · exact Table.mentionsTableTag_iff.mpr hj

end Lexer

namespace Draft.Tableless

variable {d : Draft}

theorem readWithin (h : d.Tableless) {s : Text} (hs : ¬Table.mentionsTableTag s)
    (steps : Nat) (mode : LexMode) : (d.readWithin steps mode s).Tableless := by
  induction steps generalizing d mode s with
  | zero => exact h
  | succ steps ih =>
    unfold Draft.readWithin
    split
    · exact h
    · next lexed hl =>
      have ht := h.acceptAll (Lexer.opensNoTable_of_next? hl hs) lexed.mode
      have hr : ¬Table.mentionsTableTag lexed.rest :=
        mt (Table.mentionsTableTag_of_suffix (Lexer.next?_reads hl).suffix) hs
      exact ih ht hr _

theorem elements_forestWithin (h : d.Tableless) (steps : Nat) (ids : List Nat)
    (around : MarkupTable.Around) : MarkupTable.elements around (d.forestWithin steps ids) = [] := by
  induction steps generalizing ids around with
  | zero => cases ids <;> rfl
  | succ steps ih =>
    cases ids with
    | nil => rfl
    | cons id siblings =>
      simp only [Draft.forestWithin]
      split
      · exact ih siblings around
      · next node hn =>
        split
        · exact ih siblings around
        · next space name hk =>
          have hm : name ≠ "table" := fun he =>
            h.nodes node (Array.mem_of_getElem? hn) space (he ▸ hk)
          simp only [MarkupTable.elements, ih, List.append_nil, beq_iff_eq, hm, if_false]
        · simp only [MarkupTable.elements, ih, List.append_nil]
        · exact ih siblings around
        · exact ih siblings around

end Draft.Tableless

/-- A document that mentions no table tag has no table element. -/
theorem elements_readDocument {s : Text} (h : ¬Table.mentionsTableTag s)
    (around : MarkupTable.Around) : MarkupTable.elements around (readDocument s) = [] := by
  have hp : ¬Table.mentionsTableTag (Lexer.prepare s) := mt Lexer.mentionsTableTag_of_prepare h
  have hd := (Draft.tableless_empty.readWithin hp ((Lexer.prepare s).length + 1) .data).accept
    (t := .eof) nofun
  unfold readDocument Draft.toForest
  simp only
  split
  · rfl
  · exact hd.elements_forestWithin _ _ around

end Html

namespace MarkupTable

theorem tables_eq_nil {document : Text} (h : ¬Table.mentionsTableTag document) :
    tables document = [] := by
  rw [tables, ofForest, Html.elements_readDocument h, List.mergeSort_nil, List.filterMap_nil]

end MarkupTable

namespace Table

def ShowsTableTag (document : Bytes) : Prop :=
  ∃ window, window <:+: document ∧ window.map Utf8.asciiLower = Utf8.encode "<table".toList

theorem showsTableTag_iff {document : Text} :
    ShowsTableTag (Utf8.encode document) ↔ mentionsTableTag document = true :=
  (Utf8.exists_window_iff (by decide)).trans mentionsTableTag_iff.symm

/-- The tables of a document are those of its pipes and then those of its markup, whether or not its
markup is read: a document whose bytes nowhere show the start of a table tag has no table there. -/
theorem locate_eq_append (document : Text) :
    locate document = PipeTable.tables document ++ MarkupTable.tables document ∧
      (¬ShowsTableTag (Utf8.encode document) → MarkupTable.tables document = []) := by
  rw [showsTableTag_iff]
  refine ⟨?_, MarkupTable.tables_eq_nil⟩
  unfold locate
  split
  · rfl
  · next h => rw [MarkupTable.tables_eq_nil h]

/-- Rows and cells around which every table tag is broken make no table. -/
theorem locate_eq_append_broken_tags :
    ¬ShowsTableTag (Utf8.encode "<tabl\x00e><ta<tr><th>a</th></tr>\r\n<tr><td>b<\ntable".toList) ∧
      MarkupTable.tables "<tabl\x00e><ta<tr><th>a</th></tr>\r\n<tr><td>b<\ntable".toList = [] := by
  have h : ¬ShowsTableTag
      (Utf8.encode "<tabl\x00e><ta<tr><th>a</th></tr>\r\n<tr><td>b<\ntable".toList) :=
    mt showsTableTag_iff.mp (by decide)
  exact ⟨h, (locate_eq_append _).2 h⟩

end Table

end InstanceCatalog
