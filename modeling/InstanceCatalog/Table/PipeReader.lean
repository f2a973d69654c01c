import InstanceCatalog.Table.Pipe

namespace InstanceCatalog
namespace PipeTable

/-- The next run, without blanks at the ends of its lines, and the lines behind it. -/
def nextRun? (lines : List Text) : Option (List Text × List Text) :=
  let ahead := lines.dropWhile (!isPipeLine ·)
  let run := ahead.takeWhile isPipeLine
  if run.isEmpty then none else some (run.map Text.trimEnd, ahead.dropWhile isPipeLine)

theorem length_lt_of_nextRun? {lines run rest : List Text} (h : nextRun? lines = some (run, rest)) :
    rest.length < lines.length := by
  simp only [nextRun?] at h
  split at h
  · cases h
  · next hn =>
    obtain ⟨-, rfl⟩ := Prod.mk.inj (Option.some.inj h)
    have hd := (List.dropWhile_suffix (l := lines) (!isPipeLine ·)).length_le
    have hs := congrArg List.length
      (List.takeWhile_append_dropWhile (p := isPipeLine) (l := lines.dropWhile (!isPipeLine ·)))
    have hp := List.length_pos_iff.mpr (fun hz => hn (List.isEmpty_iff.mpr hz))
    rw [List.length_append] at hs
    omega

/-- The next table and the lines behind its run. Runs without data lines are passed over. -/
def next? (lines : List Text) : Option (Table × List Text) :=
  match _ : nextRun? lines with
  | none => none
  | some (run, rest) =>
    match ofRun? run with
    | some table => some (table, rest)
    | none => next? rest
termination_by lines.length
decreasing_by exact length_lt_of_nextRun? ‹_›

/-- The reader at these lines yields these tables, one after the other, and then no more. -/
inductive Yields : List Text → List Table → Prop
  | done {lines} : next? lines = none → Yields lines []
  | table {lines rest table tables} :
    next? lines = some (table, rest) → Yields rest tables → Yields lines (table :: tables)

end PipeTable
end InstanceCatalog
