import InstanceCatalog.Proofs.Number.Largest
import InstanceCatalog.Proofs.Text.Lowercase
import InstanceCatalog.Proofs.Text.Pieces

namespace InstanceCatalog
namespace Amount

def IsAbbreviated (text : Text) : Prop :=
  ∃ numeral, Shorthand (Text.lowercase (Text.trim text)) numeral

theorem not_isAbbreviated_iff {text : Text} :
    ¬IsAbbreviated text ↔ thousands? (Text.lowercase (Text.trim text)) = none := by
  rw [IsAbbreviated, not_exists, thousands?_eq_none]

instance : DecidablePred IsAbbreviated := fun _ =>
  decidable_of_iff _ (not_iff_comm.mp not_isAbbreviated_iff)

theorem isChunkChar_of_le {c : Char} (h : 0x41 ≤ c.toNat) : isChunkChar c = false := by
  rw [Bool.eq_false_iff, ne_eq, isChunkChar_iff]
  rintro (hd | rfl | rfl)
  · have hn : c.toNat ≤ 57 := (Char.isDigit_iff_toNat.mp hd).2
    omega
  · exact absurd h (by decide)
  · exact absurd h (by decide)

theorem isDigit_of_isChunkChar {c : Char} (h : isChunkChar c = false) : c.isDigit = false := by
  rw [Bool.eq_false_iff]
  intro hd
  rw [isChunkChar, hd] at h
  cases h

theorem isChunkChar_of_isBlank {c : Char} (h : Text.isBlank c = true) : isChunkChar c = false := by
  rw [Bool.eq_false_iff, ne_eq, isChunkChar_iff]
  rintro (hd | rfl | rfl)
  · rw [Text.isBlank_of_isDigit hd] at h
    cases h
  · exact absurd h (by decide)
  · exact absurd h (by decide)

/-- A gap ends the run before it. -/
theorem chunksFrom_break (run : Text) {gap : Text} (hn : gap ≠ [])
    (hg : ∀ c ∈ gap, isChunkChar c = false) (s : Text) :
    chunksFrom run (gap ++ s) = chunksFrom run [] ++ chunks s := by
  obtain ⟨c, rest, rfl⟩ := List.exists_cons_of_ne_nil hn
  have hc := hg c List.mem_cons_self
  have hr := chunksFrom_gap
    (fun d hd => isDigit_of_isChunkChar (hg d (List.mem_cons_of_mem _ hd))) s
  cases run with
  | nil => simp [chunksFrom, isDigit_of_isChunkChar hc, hr, chunks]
  | cons d run => simp [chunksFrom, hc, hr, chunks]

theorem chunksFrom_append_cons (run s : Text) {c : Char} (hc : isChunkChar c = false) (t : Text) :
    chunksFrom run (s ++ c :: t) = chunksFrom run s ++ chunks t := by
  induction s generalizing run with
  | nil =>
    have hb := chunksFrom_break run (List.cons_ne_nil c []) (by simpa using hc) t
    exact hb
  | cons d s ih =>
    cases run with
    | nil =>
      simp only [List.cons_append, chunksFrom, ih]
      split <;> rfl
    | cons e run =>
      simp only [List.cons_append, chunksFrom, ih]
      split <;> rfl

/-- Scanning goes on alike behind texts that are scanned alike. -/
theorem chunksFrom_lowercaseAfter (run before s : Text) :
    chunksFrom run (Text.lowercaseAfter before s) = chunksFrom run s := by
  induction s generalizing run before with
  | nil => rfl
  | cons c rest ih =>
    obtain ⟨form, he, hn, hl, hu⟩ := Text.lowercaseAfter_cons before c rest
    rw [he]
    by_cases hc : c.toNat < 0x41
    · rw [hl hc, List.singleton_append]
      cases run with
      | nil => simp only [chunksFrom, ih]
      | cons d run => simp only [chunksFrom, ih]
    · have hc := not_lt.mp hc
      have hr := chunksFrom_break run (List.cons_ne_nil c [])
        (by simpa using isChunkChar_of_le hc) rest
      rw [chunksFrom_break run hn fun d hd => isChunkChar_of_le (hu hc d hd), chunks, ih]
      exact hr.symm

theorem chunks_trim (s : Text) : chunks (Text.trim s) = chunks s := by
  obtain ⟨front, back, hs, hf, hb⟩ := Text.exists_strip Text.isBlank s
  have hd : ∀ c, Text.isBlank c = true → c.isDigit = false := fun c hc =>
    isDigit_of_isChunkChar (isChunkChar_of_isBlank hc)
  have hg : chunks s = chunksFrom [] (Text.trim s ++ back) := by
    conv_lhs => rw [hs, List.append_assoc]
    exact chunksFrom_gap (fun c hc => hd c (hf c hc)) _
  rw [hg]
  cases back with
  | nil => rw [List.append_nil, chunks]
  | cons c back =>
    obtain ⟨hc, hb⟩ := List.forall_mem_cons.mp hb
    have hn := chunksFrom_gap (fun d hm => hd d (hb d hm)) []
    rw [List.append_nil] at hn
    rw [chunksFrom_append_cons [] _ (isChunkChar_of_isBlank hc), chunks, chunks, hn]
    exact (List.append_nil _).symm

/-- The counts of a cell are those of its chunks as they were written. -/
theorem largest_of_not_isAbbreviated {text : Text} (h : ¬IsAbbreviated text) :
    largest text = ((chunks text).filterMap chunkValue?).max? := by
  have hc : chunks (Text.lowercase (Text.trim text)) = chunks text :=
    (chunksFrom_lowercaseAfter [] [] _).trans (chunks_trim text)
  rw [largest, not_isAbbreviated_iff.mp h, hc]

theorem chunks_eq_nil {word : Text} (h : ∀ c ∈ word, c.isDigit = false) : chunks word = [] := by
  have hg := chunksFrom_gap h []
  rwa [List.append_nil] at hg

theorem chunks_spaced (parts : List Text) :
    chunks (List.intercalate [' '] parts) = parts.flatMap chunks := by
  induction parts with
  | nil => rfl
  | cons part parts ih =>
    rw [List.flatMap_cons]
    by_cases hn : parts = []
    · rw [hn, List.intercalate_singleton]
      exact (List.append_nil _).symm
    · rw [List.intercalate_cons_of_ne_nil hn, List.append_assoc, List.singleton_append, chunks,
        chunksFrom_append_cons [] part (by decide), ih]
      rfl

/-- A cell stays abbreviated when a part follows. -/
theorem IsAbbreviated.append_space {text : Text} (h : IsAbbreviated text) (other : Text) :
    IsAbbreviated (text ++ ' ' :: other) := by
  obtain ⟨numeral, hn, rest, hs, blanks, after, hr, hb, ha⟩ := h
  have ht : Text.trim text ≠ [] := by
    intro ht
    rw [ht, hr] at hs
    simp [Text.lowercase, Text.lowercaseAfter] at hs
  obtain ⟨back, hj, hk⟩ := Text.exists_strip_append (p := Text.isBlank) ht
    (t := ' ' :: other) (by simp [Text.isBlank])
  have hj : Text.trim (text ++ ' ' :: other) = Text.trim text ++ back := hj
  have hl := Text.lowercaseAfter_append hk [] (Text.trim text)
  have hh := Text.head?_lowercaseAfter hk ((Text.trim text).reverse ++ [])
  have hs : Text.lowercaseAfter [] (Text.trim text) = numeral ++ rest := hs
  refine ⟨numeral, hn, rest ++ Text.lowercaseAfter ((Text.trim text).reverse ++ []) back, ?_,
    blanks, after ++ Text.lowercaseAfter ((Text.trim text).reverse ++ []) back, ?_, hb, ?_⟩
  · rw [hj, Text.lowercase, hl, hs, List.append_assoc]
  · rw [hr, List.append_assoc, List.cons_append]
  · -- the mark still ends a word: what follows it did so before, or is a blank
    intro c hc
    rw [List.head?_append, hh] at hc
    rcases Option.or_eq_some_iff.mp hc with hc | ⟨-, hc⟩
    · exact ha c hc
    · exact Text.isWordChar_of_isBlank (hk c hc)

theorem max?_append (ns ks : List Nat) : (ns ++ ks).max? = max ns.max? ks.max? := by
  induction ns with
  | nil =>
    rw [List.nil_append]
    cases ks.max? <;> rfl
  | cons n ns ih =>
    rw [List.cons_append, List.max?_cons, List.max?_cons, ih]
    cases ns.max? <;> cases ks.max? <;> simp [Nat.max_assoc]

theorem max?_perm {ns ks : List Nat} (h : ns.Perm ks) : ns.max? = ks.max? := by
  apply Option.ext
  intro n
  simp only [List.max?_eq_some_iff, h.mem_iff]

/-- The amount of two parts with a space between them is the larger of theirs, and that of the other
one where a part has none. So parts may change places, and words without digits may stand before and
behind. All that is asked is that no cell begins with a shorthand for thousands. -/
theorem largest_of_parts :
    (∀ text other, ¬IsAbbreviated other → ¬IsAbbreviated (text ++ ' ' :: other) →
      largest (text ++ ' ' :: other) = max (largest text) (largest other)) ∧
    (∀ parts others : List Text, parts.Perm others → ¬IsAbbreviated (List.intercalate [' '] parts) →
      ¬IsAbbreviated (List.intercalate [' '] others) →
      largest (List.intercalate [' '] parts) = largest (List.intercalate [' '] others)) ∧
    ∀ (text : Text) (before after : List Text),
      (∀ word ∈ before ++ after, ∀ c ∈ word, c.isDigit = false) → ¬IsAbbreviated text →
      ¬IsAbbreviated (List.intercalate [' '] (before ++ text :: after)) →
      largest (List.intercalate [' '] (before ++ text :: after)) = largest text := by
  refine ⟨fun text other ho hb => ?_, fun parts others hp ha hb => ?_,
    fun text before after hw ha hb => ?_⟩
  · have ht : ¬IsAbbreviated text := fun ht => hb (ht.append_space other)
    have hc : chunks (text ++ ' ' :: other) = chunks text ++ chunks other :=
      chunksFrom_append_cons [] text (by decide) other
    rw [largest_of_not_isAbbreviated hb, largest_of_not_isAbbreviated ht,
      largest_of_not_isAbbreviated ho, hc, List.filterMap_append, max?_append]
  · rw [largest_of_not_isAbbreviated ha, largest_of_not_isAbbreviated hb, chunks_spaced,
      chunks_spaced]
    exact max?_perm ((hp.flatMap_right chunks).filterMap chunkValue?)
  · have hn : ∀ words : List Text, (∀ word ∈ words, ∀ c ∈ word, c.isDigit = false) →
        words.flatMap chunks = [] := fun words hw =>
      List.flatMap_eq_nil_iff.mpr fun word hm => chunks_eq_nil (hw word hm)
    rw [largest_of_not_isAbbreviated ha, largest_of_not_isAbbreviated hb, chunks_spaced,
      List.flatMap_append, List.flatMap_cons,
      hn before fun word hm => hw word (List.mem_append_left _ hm),
      hn after fun word hm => hw word (List.mem_append_right _ hm), List.nil_append,
      List.append_nil]

/-- Parts that end in commas and points, one that is empty, and one that has no number. -/
theorem largest_of_parts_broken :
    (¬IsAbbreviated "K 12,500.".toList ∧ ¬IsAbbreviated "1.2.3, 8. K 12,500.".toList ∧
      largest "1.2.3, 8. K 12,500.".toList = some 12500) ∧
    (["16,".toList, [], "k".toList, "2..5".toList].Perm
        ["k".toList, "2..5".toList, "16,".toList, []] ∧
      ¬IsAbbreviated "16,  k 2..5".toList ∧ ¬IsAbbreviated "k 2..5 16, ".toList ∧
      largest "16,  k 2..5".toList = largest "k 2..5 16, ".toList) ∧
    (∀ word ∈ ["Up".toList, "to".toList] ++ ["Mbps".toList], ∀ c ∈ word, c.isDigit = false) ∧
      ¬IsAbbreviated "16,000".toList ∧ ¬IsAbbreviated "Up to 16,000 Mbps".toList ∧
      largest "Up to 16,000 Mbps".toList = largest "16,000".toList := by
  obtain ⟨hm, ho, hw⟩ := largest_of_parts
  have hb : ¬IsAbbreviated "K 12,500.".toList := by decide +kernel
  have hp : ["16,".toList, [], "k".toList, "2..5".toList].Perm
      ["k".toList, "2..5".toList, "16,".toList, []] := by decide
  have hd : ∀ word ∈ ["Up".toList, "to".toList] ++ ["Mbps".toList], ∀ c ∈ word,
      c.isDigit = false := by simp
  refine ⟨⟨hb, by decide +kernel, ?_⟩, ⟨hp, by decide +kernel, by decide +kernel, ?_⟩, hd,
    by decide +kernel, by decide +kernel, ?_⟩
  · have hl := hm "1.2.3, 8.".toList "K 12,500.".toList hb (by decide +kernel)
    exact hl.trans (by decide +kernel)
  · exact ho _ _ hp (by decide +kernel) (by decide +kernel)
  · exact hw "16,000".toList ["Up".toList, "to".toList] ["Mbps".toList] hd (by decide +kernel)
      (by decide +kernel)

end Amount
end InstanceCatalog
