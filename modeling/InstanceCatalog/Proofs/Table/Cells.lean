import InstanceCatalog.Join
import InstanceCatalog.Proofs.Text.Pieces
import InstanceCatalog.Table.Pipe

namespace InstanceCatalog

namespace Text

theorem strip_of_ends {p : Char → Bool} {s : Text} (hf : ∀ c ∈ s.head?, p c = false)
    (hl : ∀ c ∈ s.getLast?, p c = false) : strip p s = s := by
  have hd : ∀ t : Text, (∀ c ∈ t.head?, p c = false) → t.dropWhile p = t := by
    intro t ht
    cases t with
    | nil => rfl
    | cons c rest => exact List.dropWhile_cons_of_neg (by simp [ht c rfl])
  rw [strip, dropEndWhile, hd s hf, hd s.reverse (by rwa [List.head?_reverse]), List.reverse_reverse]

/-- What is stripped may have more of it around. -/
theorem strip_cons_concat {p : Char → Bool} {c : Char} (hc : p c = true) (s : Text) :
    strip p (c :: s ++ [c]) = strip p s := by
  have he : ∀ t : Text, dropEndWhile p (t ++ [c]) = dropEndWhile p t := by
    intro t
    simp [dropEndWhile, hc]
  rw [strip, strip, List.cons_append, List.dropWhile_cons_of_pos hc, List.dropWhile_append]
  split
  · next hn =>
    rw [List.isEmpty_iff.mp hn, List.dropWhile_cons_of_pos hc]
    rfl
  · exact he _

end Text

namespace PipeTable

def ruled (pieces : List Text) : Text := '|' :: List.intercalate ['|'] pieces ++ ['|']

theorem trim_ruled (pieces : List Text) : Text.trim (ruled pieces) = ruled pieces := by
  have hp : Text.isBlank '|' = false := rfl
  apply Text.strip_of_ends
  · simpa [ruled] using hp
  · rw [ruled, List.getLast?_concat]
    simpa using hp

/-- The cells of a line are the pieces between its pipes without the empty ones at either end; if
all are empty, one is left. -/
theorem cells_ruled {pieces : List Text} (h : ∀ piece ∈ pieces, '|' ∉ piece) :
    cells (ruled pieces) =
      if Text.inner pieces = [] then [[]] else (Text.inner pieces).map Text.trim := by
  rw [cells, trim_ruled, ruled, Text.strip_cons_concat (by rfl), Text.strip_intercalate h]
  split
  · next hn =>
    rw [hn]
    rfl
  · next hn =>
    rw [List.splitOn_intercalate _
      (fun piece hp => h piece ((Text.inner_infix pieces).subset hp)) hn]

def FilledEnds (row : List Text) : Prop := row.head? ≠ some [] ∧ row.getLast? ≠ some []

instance : DecidablePred FilledEnds := fun _ => inferInstanceAs (Decidable (_ ∧ _))

theorem inner_eq_self_iff {row : List Text} : Text.inner row = row ↔ FilledEnds row := by
  constructor
  · intro h
    have he := Text.ends_inner row
    rwa [h] at he
  · exact fun h => Text.inner_eq_self h.1 h.2

theorem length_inner_lt {row : List Text} (h : ¬FilledEnds row) :
    (Text.inner row).length < row.length := by
  obtain ⟨before, after, ha⟩ := Text.exists_replicate_inner row
  by_contra hl
  have hc := congrArg List.length ha
  rw [List.length_append, List.length_append, List.length_replicate, List.length_replicate] at hc
  obtain rfl : before = 0 := by omega
  obtain rfl : after = 0 := by omega
  exact h (inner_eq_self_iff.mp (by simpa using ha.symm))

/-- A row of trimmed cells, written with nothing but pipes between them, is read with the same cells
exactly if its first and last cells are not empty. Otherwise the empty cells at its ends are lost and
the others stand too far to the left by those in front; under a header with as many cells as were
written the row is short and has no size. -/
theorem compact_row_kept_iff {row : List Text} (hl : 2 ≤ row.length)
    (hr : ∀ cell ∈ row, Text.trim cell = cell ∧ '|' ∉ cell ∧ '\n' ∉ cell) :
    (cells (ruled row) = row ↔ FilledEnds row) ∧
      (∃ before after,
        row = List.replicate before [] ++ Text.inner row ++ List.replicate after [] ∧
          cells (ruled row) = if Text.inner row = [] then [[]] else Text.inner row) ∧
      ∀ column, Join.rowSize? row.length column (cells (ruled row)) =
        if FilledEnds row then Join.rowSize? row.length column row else none := by
  have hc : cells (ruled row) = if Text.inner row = [] then [[]] else Text.inner row := by
    have ht : (Text.inner row).map Text.trim = Text.inner row := by
      refine (List.map_congr_left fun cell hm => ?_).trans (List.map_id _)
      exact (hr cell ((Text.inner_infix row).subset hm)).1
    rw [cells_ruled fun cell hm => (hr cell hm).2.1, ht]
  have hs : ¬FilledEnds row → (cells (ruled row)).length < row.length := by
    intro hf
    rw [hc]
    split
    · rw [List.length_singleton]
      omega
    · exact length_inner_lt hf
  have hk : FilledEnds row → cells (ruled row) = row := by
    intro hf
    have hn : row ≠ [] := by
      rintro rfl
      simp at hl
    rw [hc, inner_eq_self_iff.mpr hf, if_neg hn]
  refine ⟨⟨fun he => ?_, hk⟩, ?_, fun column => ?_⟩
  · by_contra hf
    have hlt := hs hf
    rw [he] at hlt
    exact absurd hlt (lt_irrefl _)
  · obtain ⟨before, after, ha⟩ := Text.exists_replicate_inner row
    exact ⟨before, after, ha, hc⟩
  · split
    · next hf => rw [hk hf]
    · next hf => rw [Join.rowSize?, if_pos (hs hf)]

theorem compact_row_kept_iff_inner_gap :
    (2 ≤ ["A".toList, [], "8".toList].length ∧
      ∀ cell ∈ ["A".toList, [], "8".toList], Text.trim cell = cell ∧ '|' ∉ cell ∧ '\n' ∉ cell) ∧
      cells "|A||8|".toList = ["A".toList, [], "8".toList] := by
  have hl : 2 ≤ ["A".toList, [], "8".toList].length := by decide
  have hr : ∀ cell ∈ ["A".toList, [], "8".toList],
      Text.trim cell = cell ∧ '|' ∉ cell ∧ '\n' ∉ cell := by decide
  exact ⟨⟨hl, hr⟩, (compact_row_kept_iff hl hr).1.mpr (by decide)⟩

/-- An empty first cell is lost, and the second one is read in its place. -/
theorem compact_row_not_kept : ¬∀ row : List Text, 2 ≤ row.length →
    (∀ cell ∈ row, Text.trim cell = cell ∧ '|' ∉ cell ∧ '\n' ∉ cell) →
    cells (ruled row) = row := by
  intro h
  have hk := h [[], "2".toList, "8".toList] (by decide) (by decide)
  have hc : cells (ruled [[], "2".toList, "8".toList]) = ["2".toList, "8".toList] := by decide
  rw [hc] at hk
  exact absurd hk (by decide)

end PipeTable
end InstanceCatalog
