import InstanceCatalog.Proofs.Text.Pieces
import Mathlib.Data.List.Chain

namespace InstanceCatalog
namespace Text

theorem dropEndWhile_eq_self {p : Char → Bool} {s : Text} (h : ∀ c ∈ s.getLast?, p c = false) :
    dropEndWhile p s = s := by
  change s.rdropWhile p = s
  rw [List.rdropWhile_eq_self_iff]
  intro hn hp
  rw [h _ (List.getLast?_eq_some_getLast hn)] at hp
  cases hp

/-- A text with something else than blanks at its ends is trimmed. -/
theorem trim_eq_self {s : Text} (hf : ∀ c ∈ s.head?, isBlank c = false)
    (hl : ∀ c ∈ s.getLast?, isBlank c = false) : trim s = s := by
  have hd : s.dropWhile isBlank = s := by
    cases s with
    | nil => rfl
    | cons c rest => exact List.dropWhile_cons_of_neg (by simp [hf c rfl])
  rw [trim, strip, hd, dropEndWhile_eq_self hl]

theorem trim_trim (s : Text) : trim (trim s) = trim s := by
  have ht : trim s = dropEndWhile isBlank (s.dropWhile isBlank) := rfl
  rw [ht, trim, strip, dropWhile_dropEndWhile, List.dropWhile_idempotent, dropEndWhile_idem]

theorem mem_of_mem_strip {p : Char → Bool} {s : Text} {c : Char} (h : c ∈ strip p s) : c ∈ s :=
  (List.dropWhile_suffix p).subset <| (Text.dropEndWhile_prefix p _).subset h

structure IsSpaced (s : Text) : Prop where
  spaces : ∀ c ∈ s, isBlank c = true → c = ' '
  single : ¬[' ', ' '] <:+: s
  trimmed : trim s = s

def IsWord (word : Text) : Prop := word ≠ [] ∧ ∀ c ∈ word, isBlank c = false

theorem isWord_of_mem_words {s word : Text} (h : word ∈ words s) : IsWord word := by
  obtain ⟨hm, hn⟩ := List.mem_filter.mp h
  exact ⟨by simpa using hn, of_mem_splitOnP hm⟩

variable {pieces : List Text}

theorem head?_intercalate (separator : Text) {first : Text} (hn : first ≠ []) (rest : List Text) :
    (List.intercalate separator (first :: rest)).head? = first.head? := by
  obtain ⟨c, tail, rfl⟩ := List.exists_cons_of_ne_nil hn
  cases rest with
  | nil => rfl
  | cons next rest => rfl

theorem getLast?_intercalate (separator : Char) (hn : ∀ piece ∈ pieces, piece ≠ []) :
    (List.intercalate [separator] pieces).getLast? = pieces.getLast?.bind List.getLast? := by
  rw [← List.head?_reverse, reverse_intercalate, ← List.head?_reverse (l := pieces),
    ← List.map_reverse]
  cases h : pieces.reverse with
  | nil => rfl
  | cons last before =>
    have hl : last.reverse ≠ [] := by
      rw [ne_eq, List.reverse_eq_nil_iff]
      exact hn last (List.mem_reverse.mp (h ▸ List.mem_cons_self))
    rw [List.map_cons, head?_intercalate _ hl, List.head?_reverse]
    rfl

/-- No two blanks stand side by side between words. -/
theorem isChain_intercalate (h : ∀ word ∈ pieces, IsWord word) :
    (List.intercalate [' '] pieces).IsChain fun c d => isBlank c = false ∨ isBlank d = false := by
  induction pieces with
  | nil => exact .nil
  | cons first rest ih =>
    obtain ⟨hf, hr⟩ := List.forall_mem_cons.mp h
    have hc : first.IsChain fun c d => isBlank c = false ∨ isBlank d = false :=
      (List.pairwise_of_forall_mem_list fun c hc _ _ => .inl (hf.2 c hc)).isChain
    cases rest with
    | nil => rwa [List.intercalate_singleton]
    | cons next rest =>
      -- the space has a word on either side
      have hn := head?_intercalate [' '] (hr next List.mem_cons_self).1 rest
      rw [List.intercalate_cons_cons, List.append_assoc, List.isChain_append,
        List.singleton_append, List.isChain_cons, hn]
      refine ⟨hc, ⟨fun d hd => .inr ?_, ih hr⟩, fun c hc _ _ => .inl ?_⟩
      · exact (hr next List.mem_cons_self).2 d (List.mem_of_mem_head? hd)
      · exact hf.2 c (List.mem_of_getLast? hc)

theorem single_intercalate (h : ∀ word ∈ pieces, IsWord word) :
    ¬[' ', ' '] <:+: List.intercalate [' '] pieces := by
  intro hi
  have hc := List.IsChain.infix (isChain_intercalate h) hi
  revert hc
  decide

/-- Words joined with single spaces hold no other white space. -/
theorem isSpaced_intercalate (h : ∀ word ∈ pieces, IsWord word) :
    IsSpaced (List.intercalate [' '] pieces) := by
  refine ⟨?_, single_intercalate h, trim_eq_self ?_ ?_⟩
  · intro c hc hb
    rcases mem_intercalate hc with hs | ⟨word, hw, hc⟩
    · exact hs
    · rw [(h word hw).2 c hc] at hb
      cases hb
  · intro c hc
    cases pieces with
    | nil => cases hc
    | cons first rest =>
      have hf := h first List.mem_cons_self
      rw [head?_intercalate _ hf.1] at hc
      exact hf.2 c (List.mem_of_mem_head? hc)
  · intro c hc
    rw [getLast?_intercalate _ fun word hw => (h word hw).1] at hc
    obtain ⟨last, hl, hc⟩ := Option.bind_eq_some_iff.mp hc
    exact (h last (List.mem_of_getLast? hl)).2 c (List.mem_of_getLast? hc)

end Text
end InstanceCatalog
