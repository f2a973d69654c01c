import InstanceCatalog.Proofs.Text.Pieces
import InstanceCatalog.Text.Lines

namespace InstanceCatalog
namespace Text

theorem lines_intercalate {lines : List Text} (h : ∀ line ∈ lines, '\n' ∉ line) :
    Text.lines (List.intercalate ['\n'] lines) = linesOfPieces lines := by
  by_cases hn : lines = []
  · rw [hn]
    rfl
  · rw [Text.lines, List.splitOn_intercalate _ h hn]

theorem linesOfPieces_cons (line : Text) {lines : List Text} (h : lines ≠ []) :
    linesOfPieces (line :: lines) = dropReturn line :: linesOfPieces lines := by
  obtain ⟨next, rest, rfl⟩ := List.exists_cons_of_ne_nil h
  rfl

theorem linesOfPieces_append (lines : List Text) {others : List Text} (h : others ≠ []) :
    linesOfPieces (lines ++ others) = lines.map dropReturn ++ linesOfPieces others := by
  induction lines with
  | nil => rfl
  | cons line lines ih =>
    have hn : lines ++ others ≠ [] := by simp [h]
    rw [List.cons_append, linesOfPieces_cons line hn, ih]
    rfl

theorem dropReturn_of_getLast? {line : Text} (h : line.getLast? ≠ some '\r') :
    dropReturn line = line := by
  unfold dropReturn
  split
  · next hr => exact absurd hr h
  · rfl

/-- Lines that end with a character of their own are kept as they are, whatever follows. -/
theorem linesOfPieces_append_of_ends {lines : List Text}
    (h : ∀ line ∈ lines, line ≠ [] ∧ line.getLast? ≠ some '\r') (others : List Text) :
    linesOfPieces (lines ++ others) = lines ++ linesOfPieces others := by
  induction lines with
  | nil => rfl
  | cons line lines ih =>
    obtain ⟨⟨hl, hr⟩, hs⟩ := List.forall_mem_cons.mp h
    by_cases hn : lines ++ others = []
    · obtain ⟨rfl, rfl⟩ := List.append_eq_nil_iff.mp hn
      simp [linesOfPieces, hl]
    · rw [List.cons_append, linesOfPieces_cons line hn, ih hs, dropReturn_of_getLast? hr]
      rfl

theorem dropReturn_prefix (line : Text) : dropReturn line <+: line := by
  unfold dropReturn
  split
  · exact List.dropLast_prefix line
  · exact List.prefix_rfl

/-- A piece is a line, perhaps with a carriage return more, unless it is the last one and empty. -/
theorem linesOfPieces_cons_cases (piece : Text) (pieces : List Text) :
    linesOfPieces (piece :: pieces) = [] ∨
      ∃ line, linesOfPieces (piece :: pieces) = line :: linesOfPieces pieces ∧ line <+: piece := by
  by_cases hn : pieces = []
  · have hs : linesOfPieces [piece] = if piece.isEmpty then [] else [piece] := rfl
    rw [hn, hs]
    split
    · exact .inl rfl
    · exact .inr ⟨piece, rfl, List.prefix_rfl⟩
  · exact .inr ⟨_, linesOfPieces_cons piece hn, dropReturn_prefix piece⟩

theorem exists_of_mem_linesOfPieces {pieces : List Text} {line : Text}
    (h : line ∈ linesOfPieces pieces) : ∃ piece ∈ pieces, line <+: piece := by
  induction pieces with
  | nil => cases h
  | cons piece pieces ih =>
    rcases linesOfPieces_cons_cases piece pieces with he | ⟨first, he, hc⟩
    · rw [he] at h
      cases h
    · rw [he] at h
      rcases List.mem_cons.mp h with rfl | h
      · exact ⟨piece, List.mem_cons_self, hc⟩
      · obtain ⟨other, ho, hs⟩ := ih h
        exact ⟨other, List.mem_cons_of_mem _ ho, hs⟩

/-- No line holds a line feed. -/
theorem notMem_of_mem_lines {s line : Text} (h : line ∈ Text.lines s) : '\n' ∉ line := by
  obtain ⟨piece, hp, hl⟩ := exists_of_mem_linesOfPieces h
  exact fun hc => notMem_of_mem_splitOn hp (hl.subset hc)

end Text
end InstanceCatalog
