import InstanceCatalog.Proofs.Number.Amount

namespace InstanceCatalog

namespace Decimal

/-- The number of a text of digits and a point or none: each digit after the point is a place. -/
def ofText (s : Text) : Decimal :=
  ⟨Text.decimalValue (s.filter (· != '.')), ((s.dropWhile (· != '.')).drop 1).length⟩

theorem ne_point_of_isDigit {c : Char} (h : c.isDigit = true) : (c != '.') = true := by
  rw [bne_iff_ne]
  rintro rfl
  cases h

theorem ofText_of_digits {s : Text} (h : ∀ c ∈ s, c.isDigit = true) :
    ofText s = ⟨Text.decimalValue s, 0⟩ := by
  have hn : ∀ c ∈ s, (c != '.') = true := fun c hc => ne_point_of_isDigit (h c hc)
  rw [ofText, List.filter_eq_self.mpr hn, List.dropWhile_eq_nil_iff.mpr hn]
  rfl

theorem ofText_of_point {whole fraction : Text} (hw : ∀ c ∈ whole, c.isDigit = true)
    (hf : ∀ c ∈ fraction, c.isDigit = true) :
    ofText (whole ++ '.' :: fraction) = ofParts whole fraction := by
  have hnw : ∀ c ∈ whole, (c != '.') = true := fun c hc => ne_point_of_isDigit (hw c hc)
  have hnf : ∀ c ∈ fraction, (c != '.') = true := fun c hc => ne_point_of_isDigit (hf c hc)
  rw [ofText, Text.dropWhile_append_of_stop hnw (by simp), List.filter_append,
    List.filter_eq_self.mpr hnw, List.filter_cons_of_neg (by simp), List.filter_eq_self.mpr hnf]
  rfl

/-- Digits and points with a digit first are digits alone, or go on with a point after digits. -/
theorem digits_or_point {s : Text} (hs : ∀ c ∈ s, c.isDigit = true ∨ c = '.')
    (hb : ∃ c ∈ s.head?, c.isDigit = true) :
    s ≠ [] ∧ (∀ c ∈ s, c.isDigit = true) ∨
      ∃ whole fraction, s = whole ++ '.' :: fraction ∧ whole ≠ [] ∧
        ∀ c ∈ whole, c.isDigit = true := by
  induction s with
  | nil => simp at hb
  | cons c rest ih =>
    obtain ⟨d, hm, hd⟩ := hb
    obtain rfl : c = d := by simpa using hm
    have hc : ∀ w : Text, (∀ c ∈ w, c.isDigit = true) → ∀ b ∈ c :: w, b.isDigit = true :=
      fun w hw => List.forall_mem_cons.mpr ⟨hd, hw⟩
    -- a digit goes in front of what the rest is; a point ends the digits here
    cases rest with
    | nil => exact .inl ⟨List.cons_ne_nil _ _, hc [] (by simp)⟩
    | cons b rest =>
      rcases hs b (by simp) with hb | rfl
      · rcases ih (fun a ha => hs a (List.mem_cons_of_mem _ ha)) ⟨b, rfl, hb⟩ with
          ⟨-, hr⟩ | ⟨whole, fraction, he, -, hw⟩
        · exact .inl ⟨List.cons_ne_nil _ _, hc _ hr⟩
        · exact .inr ⟨c :: whole, fraction, by rw [he, List.cons_append], List.cons_ne_nil _ _,
            hc whole hw⟩
      · exact .inr ⟨[c], rest, rfl, List.cons_ne_nil _ _, hc [] (by simp)⟩

/-- A text of digits and points with a digit first is a number unless it has two points. -/
theorem read?_eq_ofText {s : Text} (hs : ∀ c ∈ s, c.isDigit = true ∨ c = '.')
    (hb : ∃ c ∈ s.head?, c.isDigit = true) :
    read? s = if s.count '.' ≤ 1 then some (ofText s) else none := by
  have hz : ∀ {w : Text}, (∀ c ∈ w, c.isDigit = true) → w.count '.' = 0 := fun hw =>
    List.count_eq_zero.mpr fun hm => nomatch hw '.' hm
  rcases digits_or_point hs hb with ⟨hn, hd⟩ | ⟨whole, fraction, rfl, hn, hw⟩
  · rw [hz hd, if_pos (Nat.zero_le 1), ofText_of_digits hd, read?_of_digits hn hd]
  · rw [List.count_append, hz hw, List.count_cons_self]
    by_cases hf : ∀ c ∈ fraction, c.isDigit = true
    · rw [hz hf, if_pos (by decide), ofText_of_point hw hf, read?_of_point hn hw hf]
    · -- a second point stands among the places
      have ha : fraction.all Char.isDigit = false := by
        rw [Bool.eq_false_iff, ne_eq, List.all_eq_true]
        exact hf
      have hp : fraction.count '.' ≠ 0 := by
        intro h0
        apply hf
        intro c hc
        have hm : c ∈ whole ++ '.' :: fraction := by simp [hc]
        exact (hs c hm).resolve_right fun he => List.count_eq_zero.mp h0 (he ▸ hc)
      have hst : ∀ c ∈ ('.' :: fraction).head?, c.isDigit = false := by simp
      rw [if_neg (by omega), read?, Text.takeWhile_append_of_stop hw hst,
        Text.dropWhile_append_of_stop hw hst]
      simp [ha]

end Decimal

namespace Amount

/-- A scan of a text: between gaps without digits stand the chunks, each from a digit on as long
as digits, commas and points follow. -/
inductive Scans : Text → List Text → Prop
  | done {gap} : (∀ c ∈ gap, c.isDigit = false) → Scans gap []
  | chunk {gap chunk rest chunks} : (∀ c ∈ gap, c.isDigit = false) →
    (∃ c ∈ chunk.head?, c.isDigit = true) →
    (∀ c ∈ chunk, c.isDigit = true ∨ c = ',' ∨ c = '.') →
    (∀ c ∈ rest.head?, ¬(c.isDigit = true ∨ c = ',' ∨ c = '.')) →
    Scans rest chunks → Scans (gap ++ chunk ++ rest) (chunk :: chunks)

theorem isChunkChar_iff {c : Char} :
    isChunkChar c = true ↔ c.isDigit = true ∨ c = ',' ∨ c = '.' := by
  simp [isChunkChar, or_assoc]

theorem chunksFrom_gap {gap : Text} (h : ∀ c ∈ gap, c.isDigit = false) (s : Text) :
    chunksFrom [] (gap ++ s) = chunksFrom [] s := by
  induction gap with
  | nil => rfl
  | cons c rest ih =>
    have hc := h c List.mem_cons_self
    simp only [List.cons_append, chunksFrom, hc, Bool.false_eq_true, if_false]
    exact ih fun d hd => h d (List.mem_cons_of_mem _ hd)

/-- A run that has begun goes on to the end of its chunk. -/
theorem chunksFrom_run {run chunk rest : Text} (hn : run ≠ [])
    (hc : ∀ c ∈ chunk, isChunkChar c = true) (hr : ∀ c ∈ rest.head?, isChunkChar c = false) :
    chunksFrom run (chunk ++ rest) = (run.reverse ++ chunk) :: chunksFrom [] rest := by
  induction chunk generalizing run with
  | nil =>
    rw [List.append_nil, List.nil_append]
    -- the next character ends the run, and begins none
    cases rest with
    | nil => simp [chunksFrom]
    | cons c rest =>
      have hs := hr c rfl
      have hd : c.isDigit = false := by
        rw [Bool.eq_false_iff]
        intro hd
        simp [isChunkChar, hd] at hs
      simp [chunksFrom, hs, hd]
  | cons c chunk ih =>
    have hc' := hc c List.mem_cons_self
    have hrun := ih (List.cons_ne_nil c run) fun d hd => hc d (List.mem_cons_of_mem _ hd)
    simp only [List.cons_append, chunksFrom, hc', if_true, hrun]
    simp

theorem Scans.eq_chunks {s : Text} {found : List Text} (h : Scans s found) : found = chunks s := by
  induction h with
  | done hg =>
    have hc := chunksFrom_gap hg []
    rw [List.append_nil] at hc
    rw [chunks, hc]
    rfl
  | @chunk gap chunk rest found hg hd hc hr _ ih =>
    obtain ⟨c, hm, hd⟩ := hd
    cases chunk with
    | nil => cases hm
    | cons a chunk =>
      obtain rfl : a = c := by simpa using hm
      have hc' : ∀ b ∈ chunk, isChunkChar b = true := fun b hb =>
        isChunkChar_iff.mpr (hc b (List.mem_cons_of_mem _ hb))
      have hr' : ∀ b ∈ rest.head?, isChunkChar b = false := by
        intro b hb
        rw [Bool.eq_false_iff, ne_eq, isChunkChar_iff]
        exact hr b hb
      have hrun := chunksFrom_run (List.cons_ne_nil a []) hc' hr'
      rw [chunks, List.append_assoc, chunksFrom_gap hg, List.cons_append, chunksFrom, if_pos hd,
        hrun, ih]
      rfl

/-- Every text has a scan: what is behind the first chunk is scanned in turn. -/
theorem exists_scans (s : Text) : ∃ found, Scans s found := by
  obtain ⟨gap, chunk, rest, hs, hg, hc, hd, hr, hn⟩ :=
    Text.exists_gap_run_rest Char.isDigit isChunkChar
      (fun c hc => isChunkChar_iff.mpr (.inl hc)) s
  cases chunk with
  | nil =>
    rw [hn rfl, List.append_nil, List.append_nil] at hs
    rw [hs]
    exact ⟨[], .done hg⟩
  | cons c chunk =>
    have hl : rest.length < s.length := by
      rw [hs, List.length_append, List.length_append, List.length_cons]
      omega
    obtain ⟨found, hf⟩ := exists_scans rest
    rw [hs]
    refine ⟨_, .chunk hg ⟨c, rfl, hd c rfl⟩ (fun b hb => isChunkChar_iff.mp (hc b hb)) ?_ hf⟩
    intro b hb
    rw [← isChunkChar_iff, hr b hb]
    exact Bool.false_ne_true
termination_by s.length

theorem scans_iff {s : Text} {found : List Text} : Scans s found ↔ found = chunks s := by
  constructor
  · exact Scans.eq_chunks
  · rintro rfl
    obtain ⟨found, hf⟩ := exists_scans s
    rwa [← hf.eq_chunks]

/-- The integer parts of the chunks that count: those with at most one point, read without their
commas. -/
def counted (chunks : List Text) : List Nat :=
  (chunks.filter fun chunk => chunk.count '.' ≤ 1).map fun chunk =>
    (Binary64.ofDecimal (.ofText (chunk.filter (· != ',')))).truncate

theorem chunkValue?_eq {chunk : Text} (hd : ∃ c ∈ chunk.head?, c.isDigit = true)
    (hc : ∀ c ∈ chunk, c.isDigit = true ∨ c = ',' ∨ c = '.') :
    chunkValue? chunk =
      if chunk.count '.' ≤ 1 then
        some (Binary64.ofDecimal (.ofText (chunk.filter (· != ',')))).truncate
      else none := by
  have hs : ∀ c ∈ chunk.filter (· != ','), c.isDigit = true ∨ c = '.' := by
    intro c hm
    obtain ⟨hm, hn⟩ := List.mem_filter.mp hm
    exact (hc c hm).imp_right fun h => h.resolve_left (bne_iff_ne.mp hn)
  have hb : ∃ c ∈ (chunk.filter (· != ',')).head?, c.isDigit = true := by
    obtain ⟨c, hm, hd⟩ := hd
    refine ⟨c, ?_, hd⟩
    cases chunk with
    | nil => cases hm
    | cons a rest =>
      obtain rfl : a = c := by simpa using hm
      have ha : (a != ',') = true := by
        rw [bne_iff_ne]
        rintro rfl
        cases hd
      rw [List.filter_cons_of_pos (p := (· != ',')) ha]
      rfl
  have hp : (chunk.filter (· != ',')).count '.' = chunk.count '.' := List.count_filter (by decide)
  rw [chunkValue?, Decimal.read?_eq_ofText hs hb, hp]
  split <;> rfl

theorem Scans.filterMap_chunkValue? {s : Text} {found : List Text} (h : Scans s found) :
    found.filterMap chunkValue? = counted found := by
  induction h with
  | done => rfl
  | chunk _ hd hc _ _ ih =>
    unfold counted at ih ⊢
    rw [List.filterMap_cons, chunkValue?_eq hd hc, ih, List.filter_cons]
    simp only [decide_eq_true_eq]
    split_ifs
    · rfl
    · rfl

/-- An integer up to `2 ^ 53` counts as itself, wherever its commas are. -/
theorem counted_of_integer {chunk : Text} (hc : ∀ c ∈ chunk, c.isDigit = true ∨ c = ',')
    (hv : Text.decimalValue (chunk.filter (· != ',')) ≤ 2 ^ 53) :
    counted [chunk] = [Text.decimalValue (chunk.filter (· != ','))] := by
  have hd : ∀ c ∈ chunk.filter (· != ','), c.isDigit = true := by
    intro c hm
    obtain ⟨hm, hn⟩ := List.mem_filter.mp hm
    exact (hc c hm).resolve_right (bne_iff_ne.mp hn)
  have hp : chunk.count '.' = 0 := by
    apply List.count_eq_zero.mpr
    intro hm
    rcases hc _ hm with h | h <;> cases h
  have ho : Binary64.ofDecimal (.ofText (chunk.filter (· != ','))) =
      .ofNat (Text.decimalValue (chunk.filter (· != ','))) := by
    rw [Decimal.ofText_of_digits hd]
    rfl
  have hg := hv.trans (by decide : 2 ^ 53 ≤ greatestCount)
  have ht := Binary64.truncate_of_nearest (Binary64.ofNat_nearest hg) hv
  simp [counted, hp, ho, ht]

end Amount
end InstanceCatalog
