import InstanceCatalog.Proofs.Text.Trim
import InstanceCatalog.Table.PipeReader

namespace InstanceCatalog
namespace PipeTable

/-- These are the maximal runs of pipe lines among the lines, in order: before each stand lines that
are none, and none follows it directly. -/
inductive MaximalRuns : List Text → List (List Text) → Prop
  | gap {gap} : (∀ line ∈ gap, isPipeLine line = false) → MaximalRuns gap []
  | run {gap run rest runs} :
    (∀ line ∈ gap, isPipeLine line = false) → run ≠ [] →
    (∀ line ∈ run, isPipeLine line = true) → (∀ line ∈ rest.head?, isPipeLine line = false) →
    MaximalRuns rest runs → MaximalRuns (gap ++ run ++ rest) (run :: runs)

def IsSeparator (line : Text) : Prop :=
  (∃ cell ∈ cells line, '-' ∈ cell) ∧
    ∀ cell ∈ cells line, ∀ c ∈ cell, c = '-' ∨ c = ':' ∨ c = ' '

instance : DecidablePred IsSeparator := fun _ => inferInstanceAs (Decidable (_ ∧ _))

def withoutSeparator : List Text → List Text
  | header :: second :: rest =>
    if IsSeparator second then header :: rest else header :: second :: rest
  | run => run

/-- The table of a run: the cells of its first line above those of the others, of which there must
be one at least. -/
def runTable? (run : List Text) : Option Table :=
  match withoutSeparator run with
  | header :: row :: rows => some ⟨cells header, (row :: rows).map cells⟩
  | _ => none

theorem runs_append_of_gap {gap : List Text} (h : ∀ line ∈ gap, isPipeLine line = false)
    (lines : List Text) : runs (gap ++ lines) = runs lines := by
  induction gap with
  | nil => rfl
  | cons line gap ih =>
    obtain ⟨hl, hg⟩ := List.forall_mem_cons.mp h
    rw [List.cons_append, runs.eq_def]
    simp only [hl, Bool.false_eq_true, if_false, ih hg]

theorem runs_append_of_run {run rest : List Text} (hn : run ≠ [])
    (hr : ∀ line ∈ run, isPipeLine line = true) (hs : ∀ line ∈ rest.head?, isPipeLine line = false) :
    runs (run ++ rest) = run :: runs rest := by
  induction run with
  | nil => exact absurd rfl hn
  | cons line run ih =>
    obtain ⟨hl, hr⟩ := List.forall_mem_cons.mp hr
    cases run with
    | nil =>
      cases rest with
      | nil => simp [runs, hl]
      | cons next rest => simp [runs, hl, hs next rfl]
    | cons next run =>
      have hi := ih (List.cons_ne_nil _ _) hr
      rw [List.cons_append] at hi
      have hl' := hr next List.mem_cons_self
      rw [List.cons_append, List.cons_append, runs, if_pos hl]
      simp only [hl', hi]

/-- There is only one way to cut lines into maximal runs. -/
theorem MaximalRuns.eq_runs {lines : List Text} {blocks : List (List Text)}
    (h : MaximalRuns lines blocks) : blocks = runs lines := by
  induction h with
  | gap hg =>
    have hn := runs_append_of_gap hg []
    rw [List.append_nil] at hn
    rw [hn]
    rfl
  | run hg hn hr hs _ ih =>
    rw [List.append_assoc, runs_append_of_gap hg, runs_append_of_run hn hr hs, ih]

theorem maximalRuns_runs (lines : List Text) : MaximalRuns lines (runs lines) := by
  obtain ⟨gap, run, rest, hl, hg, hr, -, hs, hn⟩ :=
    Text.exists_gap_run_rest isPipeLine isPipeLine (fun _ => id) lines
  by_cases he : run = []
  · have hrun := runs_append_of_gap hg []
    rw [he, hn he, List.append_nil, List.append_nil] at hl
    rw [List.append_nil] at hrun
    rw [hl, hrun]
    exact .gap hg
  · have hlt : rest.length < lines.length := by
      have hp := List.length_pos_iff.mpr he
      rw [hl, List.length_append, List.length_append]
      omega
    have hm := maximalRuns_runs rest
    rw [hl, List.append_assoc, runs_append_of_gap hg, runs_append_of_run he hr hs,
      ← List.append_assoc]
    exact .run hg he hr hs hm
termination_by lines.length

/-- The lines of the runs are all pipe lines, each once and in order. -/
theorem MaximalRuns.flatten_eq {lines : List Text} {blocks : List (List Text)}
    (h : MaximalRuns lines blocks) : blocks.flatten = lines.filter isPipeLine := by
  induction h with
  | gap hg =>
    rw [List.flatten_nil, List.filter_eq_nil_iff.mpr]
    intro line hm
    simp [hg line hm]
  | @run gap run rest runs hg _ hr _ _ ih =>
    have hn : gap.filter isPipeLine = [] := by
      rw [List.filter_eq_nil_iff]
      intro line hm
      simp [hg line hm]
    rw [List.flatten_cons, ih, List.filter_append, List.filter_append, hn, List.nil_append,
      List.filter_eq_self.mpr hr]

theorem cells_trimEnd (line : Text) : cells (Text.trimEnd line) = cells line := by
  rw [cells, Text.trim_trimEnd, cells]

theorem isSeparator_iff (line : Text) : isSeparator line = true ↔ IsSeparator line := by
  simp only [isSeparator, IsSeparator, isSeparatorChar, Bool.and_eq_true, List.any_eq_true,
    List.all_eq_true, List.contains_iff_mem, Bool.or_eq_true, beq_iff_eq, or_assoc]

theorem isSeparator_trimEnd (line : Text) :
    isSeparator (Text.trimEnd line) = isSeparator line := by
  rw [isSeparator, isSeparator, cells_trimEnd]

/-- Blanks at the ends of lines do not change the table of a run. -/
theorem ofRun?_trimEnd (run : List Text) : ofRun? (run.map Text.trimEnd) = runTable? run := by
  match run with
  | [] => rfl
  | [header] => rfl
  | header :: second :: rest =>
    simp only [List.map_cons, ofRun?, body, runTable?, withoutSeparator, isSeparator_trimEnd,
      isSeparator_iff, cells_trimEnd]
    by_cases hs : IsSeparator second
    · cases rest <;> simp [hs, cells_trimEnd]
    · simp [hs, cells_trimEnd]

theorem nextRun?_of_gap {gap : List Text} (h : ∀ line ∈ gap, isPipeLine line = false) :
    nextRun? gap = none := by
  have hd : gap.dropWhile (!isPipeLine ·) = [] := by
    rw [List.dropWhile_eq_nil_iff]
    intro line hm
    simp [h line hm]
  simp [nextRun?, hd]

theorem nextRun?_append {gap run rest : List Text} (hg : ∀ line ∈ gap, isPipeLine line = false)
    (hn : run ≠ []) (hr : ∀ line ∈ run, isPipeLine line = true)
    (hs : ∀ line ∈ rest.head?, isPipeLine line = false) :
    nextRun? (gap ++ run ++ rest) = some (run.map Text.trimEnd, rest) := by
  have hd : (gap ++ run ++ rest).dropWhile (!isPipeLine ·) = run ++ rest := by
    rw [List.append_assoc]
    apply Text.dropWhile_append_of_stop
    · intro line hm
      simp [hg line hm]
    · intro line hm
      obtain ⟨first, tail, rfl⟩ := List.exists_cons_of_ne_nil hn
      obtain rfl : first = line := by simpa using hm
      simp [hr first List.mem_cons_self]
  simp only [nextRun?, hd, Text.takeWhile_append_of_stop hr hs, Text.dropWhile_append_of_stop hr hs]
  simp [hn]

theorem next?_of_none {lines : List Text} (h : nextRun? lines = none) : next? lines = none := by
  rw [next?]
  split
  · rfl
  · next hs => simp [h] at hs

theorem next?_of_some {lines run rest : List Text} (h : nextRun? lines = some (run, rest)) :
    next? lines = match ofRun? run with
      | some table => some (table, rest)
      | none => next? rest := by
  rw [next?]
  split
  · next hs => simp [h] at hs
  · next hs =>
    rw [h] at hs
    cases hs
    rfl

theorem Yields.of_next?_eq {lines rest : List Text} {tables : List Table}
    (h : next? lines = next? rest) (hy : Yields rest tables) : Yields lines tables := by
  cases hy with
  | done hn => exact .done (h.trans hn)
  | table hn hr => exact .table (h.trans hn) hr

theorem Yields.unique {lines : List Text} {tables others : List Table} (h : Yields lines tables)
    (ho : Yields lines others) : others = tables := by
  induction h generalizing others with
  | done hn =>
    cases ho with
    | done => rfl
    | table ho => cases hn.symm.trans ho
  | table hn _ ih =>
    cases ho with
    | done ho => cases hn.symm.trans ho
    | table ho hr =>
      cases hn.symm.trans ho
      rw [ih hr]

theorem MaximalRuns.yields {lines : List Text} {blocks : List (List Text)}
    (h : MaximalRuns lines blocks) : Yields lines (blocks.filterMap runTable?) := by
  induction h with
  | gap hg => exact .done (next?_of_none (nextRun?_of_gap hg))
  | @run gap run rest runs hg hn hr hs _ ih =>
    have he := next?_of_some (nextRun?_append hg hn hr hs)
    rw [ofRun?_trimEnd] at he
    cases ht : runTable? run with
    | none =>
      rw [ht] at he
      rw [List.filterMap_cons_none ht]
      exact ih.of_next?_eq he
    | some table =>
      rw [ht] at he
      rw [List.filterMap_cons_some ht]
      exact .table he ih

/-- Reading a document yields its tables and ends. They are the tables of the maximal runs of pipe
lines, in order; the runs are the only such cut of the lines, and no pipe line is lost or used
twice. -/
theorem yields_tables_of_runs (document : Text) :
    ∃ blocks, MaximalRuns (Text.lines document) blocks ∧
      (∀ others, MaximalRuns (Text.lines document) others → others = blocks) ∧
      blocks.flatten = (Text.lines document).filter isPipeLine ∧
      tables document = blocks.filterMap runTable? ∧
      Yields (Text.lines document) (tables document) ∧
      ∀ others, Yields (Text.lines document) others → others = tables document := by
  have hm := maximalRuns_runs (Text.lines document)
  have ht : tables document = (runs (Text.lines document)).filterMap runTable? := by
    rw [tables]
    exact congrArg (List.filterMap · _) (funext ofRun?_trimEnd)
  have hy := hm.yields
  rw [← ht] at hy
  exact ⟨_, hm, fun _ ho => ho.eq_runs, hm.flatten_eq, ht, hy, fun _ ho => hy.unique ho⟩

end PipeTable
end InstanceCatalog
