import InstanceCatalog.Proofs.Table.Rendering
import Mathlib.Logic.Relation

namespace InstanceCatalog
namespace PipeTable

def withReturns (s : Text) : Text := s.flatMap fun c => if c = '\n' then ['\r', '\n'] else [c]

/-- A line ends before this text: at the end of the document, or at a line feed with or without a
carriage return. -/
inductive AtLineEnd : Text → Prop
  | document : AtLineEnd []
  | feed {rest} : AtLineEnd ('\n' :: rest)
  | returned {rest} : AtLineEnd ('\r' :: '\n' :: rest)

/-- One change of the line ends of a document. -/
inductive Respaced : Text → Text → Prop
  | returns {s} : Respaced s (withReturns s)
  | blanks {before blanks after} : (∀ c ∈ blanks, c = ' ' ∨ c = '\t') → AtLineEnd after →
    Respaced (before ++ after) (before ++ blanks ++ after)
  | closed {s} : Respaced s (s ++ ['\n'])
  | opened {s} : Respaced (s ++ ['\n']) s

theorem trimEnd_of_blanks {s : Text} (h : ∀ c ∈ s, Text.isBlank c = true) : Text.trimEnd s = [] :=
  List.rdropWhile_eq_nil_iff.mpr h

theorem isPipeLine_trimEnd (line : Text) : isPipeLine (Text.trimEnd line) = isPipeLine line := by
  cases hl : isPipeLine line with
  | false => exact isPipeLine_of_prefix (Text.dropEndWhile_prefix _ line) hl
  | true =>
    cases line with
    | nil => cases hl
    | cons c rest =>
      obtain rfl : c = '|' := by simpa [isPipeLine] using hl
      have hp : ¬Text.isBlank '|' = true := by decide
      rw [Text.trimEnd, Text.dropEndWhile_cons, if_neg hp]
      split <;> rfl

theorem runTable?_map_trimEnd (run : List Text) :
    runTable? (run.map Text.trimEnd) = runTable? run := by
  have hi : Text.trimEnd ∘ Text.trimEnd = Text.trimEnd := funext Text.dropEndWhile_idem
  rw [← ofRun?_trimEnd, List.map_map, hi, ofRun?_trimEnd]

theorem MaximalRuns.map_trimEnd {lines : List Text} {blocks : List (List Text)}
    (h : MaximalRuns lines blocks) :
    MaximalRuns (lines.map Text.trimEnd) (blocks.map (List.map Text.trimEnd)) := by
  have hm : ∀ {ls : List Text} {b : Bool}, (∀ line ∈ ls, isPipeLine line = b) →
      ∀ line ∈ ls.map Text.trimEnd, isPipeLine line = b := by
    intro ls b hs line hl
    obtain ⟨whole, hw, rfl⟩ := List.mem_map.mp hl
    rw [isPipeLine_trimEnd, hs whole hw]
  induction h with
  | gap hg => exact .gap (hm hg)
  | @run gap run rest runs hg hn hr hs _ ih =>
    rw [List.map_append, List.map_append]
    refine .run (hm hg) (by simpa using hn) (hm hr) ?_ ih
    cases rest with
    | nil => simp
    | cons first rest => simpa [isPipeLine_trimEnd] using hs

/-- Other lines behind all runs make no difference. -/
theorem MaximalRuns.append_gap {lines after : List Text} {blocks : List (List Text)}
    (h : MaximalRuns lines blocks) (ha : ∀ line ∈ after, isPipeLine line = false) :
    MaximalRuns (lines ++ after) blocks := by
  induction h with
  | gap hg =>
    apply MaximalRuns.gap
    intro line hm
    exact (List.mem_append.mp hm).elim (hg line) (ha line)
  | @run gap run rest runs hg hn hr hs _ ih =>
    rw [List.append_assoc]
    refine .run hg hn hr ?_ ih
    cases rest with
    | nil => exact fun line hl => ha line (List.mem_of_mem_head? hl)
    | cons first rest => exact hs

/-- The lines of a document without the blanks at their ends and without empty lines behind all
others. -/
def bareLines (s : Text) : List Text :=
  ((List.splitOn '\n' s).map Text.trimEnd).rdropWhile List.isEmpty

theorem trimEnd_dropReturn (line : Text) :
    Text.trimEnd (Text.dropReturn line) = Text.trimEnd line := by
  unfold Text.dropReturn
  split
  · next hr =>
    obtain ⟨front, rfl⟩ := List.getLast?_eq_some_iff.mp hr
    have hb : Text.dropEndWhile Text.isBlank ['\r'] = [] := by decide
    rw [List.dropLast_concat, Text.trimEnd, Text.trimEnd, Text.dropEndWhile_append, if_pos hb]
  · rfl

theorem exists_map_trimEnd_pieces (pieces : List Text) :
    ∃ after : List Text, pieces.map Text.trimEnd =
      (Text.linesOfPieces pieces).map Text.trimEnd ++ after ∧ ∀ line ∈ after, line = [] := by
  induction pieces with
  | nil => exact ⟨[], rfl, by simp⟩
  | cons piece pieces ih =>
    by_cases hn : pieces = []
    · subst hn
      by_cases hp : piece = []
      · exact ⟨[[]], by simp [Text.linesOfPieces, hp, Text.trimEnd, Text.dropEndWhile], by simp⟩
      · exact ⟨[], by simp [Text.linesOfPieces, hp], by simp⟩
    · obtain ⟨after, he, ha⟩ := ih
      refine ⟨after, ?_, ha⟩
      rw [Text.linesOfPieces_cons piece hn, List.map_cons, he, List.map_cons, trimEnd_dropReturn]
      rfl

/-- Bare lines have the runs of the lines, without the blanks at the ends. -/
theorem runs_bareLines (s : Text) :
    runs (bareLines s) = (runs (Text.lines s)).map (List.map Text.trimEnd) := by
  have hl := (maximalRuns_runs (Text.lines s)).map_trimEnd
  have hb := maximalRuns_runs (bareLines s)
  -- both lists of lines go on to the same one, with nothing but empty lines
  obtain ⟨after, he, ha⟩ := exists_map_trimEnd_pieces (List.splitOn '\n' s)
  have hp := hl.append_gap fun line hm => by rw [ha line hm]; rfl
  have hg : ∀ line ∈ ((List.splitOn '\n' s).map Text.trimEnd).rtakeWhile List.isEmpty,
      isPipeLine line = false := by
    intro line hm
    rw [List.isEmpty_iff.mp (List.mem_rtakeWhile_imp hm)]
    rfl
  have hr := hb.append_gap hg
  rw [Text.lines, ← he] at hp
  rw [bareLines, List.rdropWhile_append_rtakeWhile] at hr
  exact hr.eq_runs.trans hp.eq_runs.symm

theorem tables_eq_bareLines (s : Text) : tables s = (runs (bareLines s)).filterMap runTable? := by
  have hf : runTable? ∘ List.map Text.trimEnd = runTable? := funext runTable?_map_trimEnd
  rw [runs_bareLines, List.filterMap_map, hf, tables]
  exact congrArg (List.filterMap · _) (funext ofRun?_trimEnd)

theorem yields_iff (document : Text) (found : List Table) :
    Yields (Text.lines document) found ↔ found = tables document := by
  have hy := (maximalRuns_runs (Text.lines document)).yields
  have ht : tables document = (runs (Text.lines document)).filterMap runTable? :=
    congrArg (List.filterMap · _) (funext ofRun?_trimEnd)
  rw [← ht] at hy
  exact ⟨hy.unique, fun he => he ▸ hy⟩

def SameLines (s t : Text) : Prop :=
  (List.splitOn '\n' t).map Text.trimEnd = (List.splitOn '\n' s).map Text.trimEnd

theorem SameLines.cons {s t : Text} (h : SameLines s t) (c : Char) :
    SameLines (c :: s) (c :: t) := by
  unfold SameLines at h ⊢
  by_cases hc : (c == '\n') = true
  · rw [List.splitOn_cons_eq_if_modifyHead, List.splitOn_cons_eq_if_modifyHead, if_pos hc,
      if_pos hc, List.map_cons, List.map_cons, h]
  · -- the character joins the first line, whose end it does not touch
    obtain ⟨first, lines, hs, hs'⟩ := Text.exists_splitOnP_cons (p := (· == '\n')) hc s
    obtain ⟨other, others, ht, ht'⟩ := Text.exists_splitOnP_cons (p := (· == '\n')) hc t
    rw [List.splitOn, List.splitOn, hs, ht, List.map_cons, List.map_cons] at h
    obtain ⟨hf, hl⟩ := List.cons.inj h
    rw [Text.trimEnd, Text.trimEnd] at hf
    rw [List.splitOn, List.splitOn, hs', ht', List.map_cons, List.map_cons, hl, Text.trimEnd,
      Text.trimEnd, Text.dropEndWhile_cons, hf, ← Text.dropEndWhile_cons]

theorem SameLines.append_left {s t : Text} (h : SameLines s t) (before : Text) :
    SameLines (before ++ s) (before ++ t) := by
  induction before with
  | nil => exact h
  | cons c before ih => exact ih.cons c

/-- Blanks before a line feed are the end of a line. -/
theorem sameLines_of_feed {blanks : Text} (h : ∀ c ∈ blanks, c = ' ' ∨ c = '\t' ∨ c = '\r')
    (rest : Text) : SameLines ('\n' :: rest) (blanks ++ '\n' :: rest) := by
  have hf : '\n' ∉ blanks := fun hm => by simpa using h _ hm
  have hb : ∀ c ∈ blanks, Text.isBlank c = true := by
    intro c hm
    rcases h c hm with rfl | rfl | rfl <;> rfl
  have hs := List.splitOn_append_cons_self (a := '\n') [] rest
  rw [List.nil_append] at hs
  rw [SameLines, List.splitOn_append_cons_self, List.splitOn_eq_singleton hf, hs, List.map_append,
    List.map_append, List.map_singleton, trimEnd_of_blanks hb]
  rfl

theorem sameLines_return (rest : Text) : SameLines ('\n' :: rest) ('\r' :: '\n' :: rest) := by
  have hr : ∀ c ∈ ['\r'], c = ' ' ∨ c = '\t' ∨ c = '\r' := by simp
  exact sameLines_of_feed hr rest

theorem sameLines_blanks {blanks after : Text} (h : ∀ c ∈ blanks, c = ' ' ∨ c = '\t')
    (ha : AtLineEnd after) : SameLines after (blanks ++ after) := by
  have hb : ∀ c ∈ blanks, c = ' ' ∨ c = '\t' ∨ c = '\r' := fun c hm =>
    (h c hm).imp_right .inl
  cases ha with
  | document =>
    have hf : '\n' ∉ blanks := fun hm => by simpa using h _ hm
    have hn : ∀ c ∈ blanks, Text.isBlank c = true := by
      intro c hm
      rcases h c hm with rfl | rfl <;> rfl
    rw [SameLines, List.append_nil, List.splitOn_eq_singleton hf, List.map_singleton,
      trimEnd_of_blanks hn]
    rfl
  | feed => exact sameLines_of_feed hb _
  | @returned rest =>
    -- the carriage return is one more blank before the line feed
    have hr : ∀ c ∈ blanks ++ ['\r'], c = ' ' ∨ c = '\t' ∨ c = '\r' := by
      intro c hm
      exact (List.mem_append.mp hm).elim (hb c) fun hc => .inr (.inr (List.mem_singleton.mp hc))
    have hw := sameLines_of_feed hr rest
    rw [List.append_assoc, List.singleton_append] at hw
    exact hw.trans (sameLines_return rest).symm

theorem sameLines_withReturns (s : Text) : SameLines s (withReturns s) := by
  induction s with
  | nil => rfl
  | cons c rest ih =>
    have hc : withReturns (c :: rest) =
        (if c = '\n' then ['\r', '\n'] else [c]) ++ withReturns rest := List.flatMap_cons
    rw [hc]
    split
    · next he =>
      rw [he]
      exact (sameLines_return (withReturns rest)).trans (ih.cons '\n')
    · exact ih.cons c

theorem bareLines_closed (s : Text) : bareLines (s ++ ['\n']) = bareLines s := by
  rw [bareLines, List.splitOn_append_cons_self, List.map_append]
  exact List.rdropWhile_concat_pos _ _ _ rfl

theorem SameLines.bareLines_eq {s t : Text} (h : SameLines s t) : bareLines t = bareLines s := by
  rw [bareLines, h, bareLines]

theorem Respaced.bareLines_eq {s t : Text} (h : Respaced s t) : bareLines t = bareLines s := by
  cases h with
  | returns => exact (sameLines_withReturns s).bareLines_eq
  | @blanks before blanks after hb ha =>
    rw [List.append_assoc]
    exact ((sameLines_blanks hb ha).append_left before).bareLines_eq
  | closed => exact bareLines_closed s
  | opened => exact (bareLines_closed t).symm

/-- A document has the tables it had, however often carriage returns are put before its line feeds,
blanks are put at the ends of its lines, and its last line feed is added or left out; and reading it
yields what it yielded. -/
theorem tables_of_respaced {s t : Text} (h : Relation.ReflTransGen Respaced s t) :
    tables t = tables s ∧
      ∀ found, Yields (Text.lines t) found ↔ Yields (Text.lines s) found := by
  have hb : bareLines t = bareLines s := by
    induction h with
    | refl => rfl
    | tail _ hs ih => exact hs.bareLines_eq.trans ih
  have ht : tables t = tables s := by rw [tables_eq_bareLines, hb, tables_eq_bareLines]
  refine ⟨ht, fun found => ?_⟩
  rw [yields_iff, yields_iff, ht]

/-- Returns on all lines, then blanks before a return and on a last line without a line feed. -/
theorem tables_of_respaced_all :
    Relation.ReflTransGen Respaced "| a | b |\n|---|---|\n| 1 ||\n".toList
        "| a | b | \t\r\n|---|---|\r\n| 1 ||\r ".toList ∧
      tables "| a | b | \t\r\n|---|---|\r\n| 1 ||\r ".toList =
        [⟨["a".toList, "b".toList], [["1".toList]]⟩] := by
  have h1 : Respaced "| a | b |\n|---|---|\n| 1 ||\n".toList
      "| a | b |\r\n|---|---|\r\n| 1 ||\r\n".toList := .returns
  have h2 : Respaced ("| a | b |".toList ++ "\r\n|---|---|\r\n| 1 ||\r\n".toList)
      ("| a | b |".toList ++ " \t".toList ++ "\r\n|---|---|\r\n| 1 ||\r\n".toList) :=
    .blanks (by simp) .returned
  have h3 : Respaced ("| a | b | \t\r\n|---|---|\r\n| 1 ||\r".toList ++ ['\n'])
      "| a | b | \t\r\n|---|---|\r\n| 1 ||\r".toList := .opened
  have h4 : Respaced ("| a | b | \t\r\n|---|---|\r\n| 1 ||\r".toList ++ [])
      ("| a | b | \t\r\n|---|---|\r\n| 1 ||\r".toList ++ [' '] ++ []) :=
    .blanks (by simp) .document
  have h := (((Relation.ReflTransGen.single h1).tail h2).tail h3).tail h4
  exact ⟨h, (tables_of_respaced h).1.trans (by decide +kernel)⟩

end PipeTable
end InstanceCatalog
