import InstanceCatalog.Proofs.Text.Trim

namespace InstanceCatalog
namespace Text

theorem splitOnP_congr {p q : Char → Bool} {s : Text} (h : ∀ c ∈ s, p c = q c) :
    List.splitOnP p s = List.splitOnP q s := by
  induction s with
  | nil => rfl
  | cons c rest ih =>
    obtain ⟨hc, hr⟩ := List.forall_mem_cons.mp h
    rw [List.splitOnP_cons_eq_if_modifyHead, List.splitOnP_cons_eq_if_modifyHead, hc, ih hr]

/-- A character that ends no piece goes in front of the first one. -/
theorem exists_splitOnP_cons {p : Char → Bool} {c : Char} (hc : ¬p c = true) (s : Text) :
    ∃ piece pieces, List.splitOnP p s = piece :: pieces ∧
      List.splitOnP p (c :: s) = (c :: piece) :: pieces := by
  obtain ⟨piece, pieces, hs⟩ := List.exists_cons_of_ne_nil (List.splitOnP_ne_nil p s)
  refine ⟨piece, pieces, hs, ?_⟩
  rw [List.splitOnP_cons_eq_if_modifyHead, if_neg hc, hs, List.modifyHead_cons]

/-- A text without the separator stays whole at the end of another one. -/
theorem exists_splitOn_append {separator : Char} {ending : Text} (h : separator ∉ ending)
    (s : Text) : ∃ front last, List.splitOn separator (s ++ ending) = front ++ [last ++ ending] := by
  induction s with
  | nil => exact ⟨[], [], List.splitOn_eq_singleton h⟩
  | cons c rest ih =>
    obtain ⟨front, last, hs⟩ := ih
    rw [List.cons_append, List.splitOn_cons_eq_if_modifyHead, hs]
    split
    · exact ⟨[] :: front, last, rfl⟩
    · cases front with
      | nil => exact ⟨[], c :: last, rfl⟩
      | cons piece front => exact ⟨(c :: piece) :: front, last, rfl⟩

variable {separator : Char} {pieces : List Text}

theorem intercalate_append (separator : Text) {pieces others : List Text} (hp : pieces ≠ [])
    (ho : others ≠ []) :
    List.intercalate separator (pieces ++ others) =
      List.intercalate separator pieces ++ separator ++ List.intercalate separator others := by
  induction pieces with
  | nil => exact absurd rfl hp
  | cons piece pieces ih =>
    by_cases hn : pieces = []
    · rw [hn, List.singleton_append, List.intercalate_cons_of_ne_nil ho,
        List.intercalate_singleton]
    · have ha : pieces ++ others ≠ [] := by simp [hn]
      rw [List.cons_append, List.intercalate_cons_of_ne_nil ha, ih hn,
        List.intercalate_cons_of_ne_nil hn]
      simp only [List.append_assoc]

/-- No piece holds a character that ends pieces. -/
theorem of_mem_splitOnP {p : Char → Bool} {s piece : Text} (h : piece ∈ List.splitOnP p s) :
    ∀ c ∈ piece, p c = false := by
  induction s generalizing piece with
  | nil =>
    rw [List.mem_singleton.mp h]
    exact fun _ hc => nomatch hc
  | cons c rest ih =>
    by_cases hc : p c = true
    · rw [List.splitOnP_cons_eq_if_modifyHead, if_pos hc] at h
      rcases List.mem_cons.mp h with rfl | h
      · exact fun _ hc => nomatch hc
      · exact ih h
    · obtain ⟨first, pieces, hs, hj⟩ := exists_splitOnP_cons hc rest
      rw [hj] at h
      rw [hs] at ih
      rcases List.mem_cons.mp h with rfl | h
      · exact List.forall_mem_cons.mpr ⟨by simpa using hc, ih List.mem_cons_self⟩
      · exact ih (List.mem_cons_of_mem _ h)

theorem notMem_of_mem_splitOn {separator : Char} {s piece : Text}
    (h : piece ∈ List.splitOn separator s) : separator ∉ piece := by
  intro hc
  simpa using of_mem_splitOnP h separator hc

theorem infix_intercalate_of_mem {piece : Text} (separator : Text) {pieces : List Text}
    (h : piece ∈ pieces) : piece <:+: List.intercalate separator pieces := by
  induction pieces with
  | nil => cases h
  | cons first pieces ih =>
    by_cases hn : pieces = []
    · rw [hn] at h ⊢
      have he : List.intercalate separator [first] = piece := by
        rw [List.mem_singleton.mp h, List.intercalate_singleton]
      exact he ▸ List.infix_rfl
    · rw [List.intercalate_cons_of_ne_nil hn]
      rcases List.mem_cons.mp h with rfl | h
      · exact ⟨[], _, by rw [List.nil_append, List.append_assoc]⟩
      · exact (ih h).trans (List.suffix_append _ _).isInfix

theorem infix_of_mem_splitOn {separator : Char} {s piece : Text}
    (h : piece ∈ List.splitOn separator s) : piece <:+: s := by
  have hj := infix_intercalate_of_mem [separator] h
  rwa [List.intercalate_splitOn] at hj

theorem mem_of_mem_splitOn {separator c : Char} {s piece : Text}
    (hp : piece ∈ List.splitOn separator s) (hc : c ∈ piece) : c ∈ s :=
  (infix_of_mem_splitOn hp).subset hc

theorem mem_intercalate {c : Char} (h : c ∈ List.intercalate [separator] pieces) :
    c = separator ∨ ∃ piece ∈ pieces, c ∈ piece := by
  induction pieces with
  | nil => cases h
  | cons piece pieces ih =>
    by_cases hn : pieces = []
    · rw [hn, List.intercalate_singleton] at h
      exact .inr ⟨piece, List.mem_cons_self, h⟩
    · rw [List.intercalate_cons_of_ne_nil hn, List.append_assoc] at h
      rcases List.mem_append.mp h with h | h
      · exact .inr ⟨piece, List.mem_cons_self, h⟩
      · rcases List.mem_cons.mp h with h | h
        · exact .inl h
        · exact (ih h).imp_right fun ⟨other, ho, hc⟩ => ⟨other, List.mem_cons_of_mem _ ho, hc⟩

theorem reverse_intercalate (separator : Char) (pieces : List Text) :
    (List.intercalate [separator] pieces).reverse =
      List.intercalate [separator] (pieces.map List.reverse).reverse := by
  induction pieces with
  | nil => rfl
  | cons piece pieces ih =>
    by_cases hn : pieces = []
    · rw [hn, List.intercalate_singleton]
      exact List.intercalate_singleton.symm
    · have hr : (pieces.map List.reverse).reverse ≠ [] := by simp [hn]
      have hl : [List.reverse piece] ≠ [] := List.cons_ne_nil _ _
      rw [List.intercalate_cons_of_ne_nil hn, List.reverse_append, List.reverse_append, ih,
        List.map_cons, List.reverse_cons (a := List.reverse piece), intercalate_append _ hr hl,
        List.intercalate_singleton, List.append_assoc, List.reverse_singleton]

theorem dropWhile_intercalate (h : ∀ piece ∈ pieces, separator ∉ piece) :
    (List.intercalate [separator] pieces).dropWhile (· == separator) =
      List.intercalate [separator] (pieces.dropWhile List.isEmpty) := by
  induction pieces with
  | nil => rfl
  | cons piece pieces ih =>
    obtain ⟨hp, hr⟩ := List.forall_mem_cons.mp h
    cases piece with
    | nil =>
      rw [List.dropWhile_cons_of_pos List.isEmpty_nil, ← ih hr]
      by_cases hn : pieces = []
      · rw [hn]
        rfl
      · rw [List.intercalate_cons_of_ne_nil hn, List.nil_append, List.singleton_append,
          List.dropWhile_cons_of_pos (by simp)]
    | cons c rest =>
      have hc : c ≠ separator := by
        rintro rfl
        exact hp List.mem_cons_self
      rw [List.dropWhile_cons_of_neg (by simp), List.intercalate_cons_cons_left,
        List.dropWhile_cons_of_neg (by simp [hc])]

theorem dropEndWhile_intercalate (h : ∀ piece ∈ pieces, separator ∉ piece) :
    dropEndWhile (· == separator) (List.intercalate [separator] pieces) =
      List.intercalate [separator] (pieces.rdropWhile List.isEmpty) := by
  have hr : ∀ piece ∈ (pieces.map List.reverse).reverse, separator ∉ piece := by
    simp only [List.mem_reverse, List.mem_map]
    rintro _ ⟨piece, hp, rfl⟩
    rw [List.mem_reverse]
    exact h piece hp
  have he : List.isEmpty ∘ List.reverse = (List.isEmpty : Text → Bool) := by
    funext piece
    exact List.isEmpty_reverse
  rw [dropEndWhile, reverse_intercalate, dropWhile_intercalate hr, reverse_intercalate,
    ← List.map_reverse (l := pieces), List.dropWhile_map, he, List.map_map,
    List.reverse_involutive.comp_self, List.map_id, List.rdropWhile]

/-- The pieces without the empty ones in front of all others and behind them. -/
def inner (pieces : List Text) : List Text :=
  (pieces.dropWhile List.isEmpty).rdropWhile List.isEmpty

theorem strip_intercalate (h : ∀ piece ∈ pieces, separator ∉ piece) :
    strip (· == separator) (List.intercalate [separator] pieces) =
      List.intercalate [separator] (inner pieces) := by
  rw [strip, dropWhile_intercalate h, dropEndWhile_intercalate, inner]
  intro piece hp
  exact h piece ((List.dropWhile_suffix _).subset hp)

theorem inner_infix (pieces : List Text) : inner pieces <:+: pieces :=
  (List.rdropWhile_prefix _ _).isInfix.trans (List.dropWhile_suffix _).isInfix

/-- Stripping separators leaves out empty pieces and adds one at most. -/
theorem mem_splitOn_strip {s piece : Text}
    (h : piece ∈ List.splitOn separator (strip (· == separator) s)) :
    piece = [] ∨ piece ∈ List.splitOn separator s := by
  have hs : ∀ p ∈ List.splitOn separator s, separator ∉ p := fun _ => notMem_of_mem_splitOn
  have he : strip (· == separator) s =
      List.intercalate [separator] (inner (List.splitOn separator s)) := by
    rw [← strip_intercalate hs, List.intercalate_splitOn]
  have hi : inner (List.splitOn separator s) <:+: List.splitOn separator s := inner_infix _
  rw [he] at h
  by_cases hn : inner (List.splitOn separator s) = []
  · rw [hn] at h
    exact .inl (List.mem_singleton.mp h)
  · rw [List.splitOn_intercalate _ (fun p hp => hs p (hi.subset hp)) hn] at h
    exact .inr (hi.subset h)

/-- All that is left out is empty. -/
theorem exists_replicate_inner (pieces : List Text) :
    ∃ before after, pieces = List.replicate before [] ++ inner pieces ++ List.replicate after [] := by
  have he : ∀ run : List Text, (∀ piece ∈ run, piece.isEmpty = true) →
      run = List.replicate run.length [] := by
    intro run hr
    exact List.eq_replicate_of_mem fun piece hp => List.isEmpty_iff.mp (hr piece hp)
  refine ⟨(pieces.takeWhile List.isEmpty).length,
    ((pieces.dropWhile List.isEmpty).rtakeWhile List.isEmpty).length, ?_⟩
  rw [← he (pieces.takeWhile List.isEmpty) fun _ => List.mem_takeWhile_imp,
    ← he ((pieces.dropWhile List.isEmpty).rtakeWhile List.isEmpty)
      fun _ => List.mem_rtakeWhile_imp,
    inner, List.append_assoc, List.rdropWhile_append_rtakeWhile, List.takeWhile_append_dropWhile]

theorem inner_eq_self (hf : pieces.head? ≠ some []) (hl : pieces.getLast? ≠ some []) :
    inner pieces = pieces := by
  have hd : pieces.dropWhile List.isEmpty = pieces := by
    cases pieces with
    | nil => rfl
    | cons piece rest => exact List.dropWhile_cons_of_neg (by simpa using hf)
  rw [inner, hd, List.rdropWhile_eq_self_iff]
  intro hn he
  rw [List.getLast?_eq_some_getLast hn, List.isEmpty_iff.mp he] at hl
  exact hl rfl

theorem ends_inner (pieces : List Text) :
    (inner pieces).head? ≠ some [] ∧ (inner pieces).getLast? ≠ some [] := by
  constructor
  · obtain ⟨tail, ht⟩ : inner pieces <+: pieces.dropWhile List.isEmpty :=
      List.rdropWhile_prefix _ _
    intro hh
    have hn := head?_dropWhile List.isEmpty pieces [] (by rw [← ht, List.head?_append, hh]; rfl)
    cases hn
  · intro hl
    have hn : inner pieces ≠ [] := by
      rintro he
      rw [he] at hl
      cases hl
    rw [List.getLast?_eq_some_getLast hn] at hl
    apply List.rdropWhile_last_not List.isEmpty (pieces.dropWhile List.isEmpty) hn
    exact List.isEmpty_iff.mpr (Option.some.inj hl)

end Text
end InstanceCatalog
