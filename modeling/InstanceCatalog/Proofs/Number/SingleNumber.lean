import InstanceCatalog.Proofs.Number.Parts

namespace InstanceCatalog
namespace Amount

/-- There is no digit, or all digits and points stand in one run of digits, commas and points that
begins with a digit. -/
inductive HasOneNumber : Text → Prop
  | none {text} : (∀ c ∈ text, c.isDigit = false) → HasOneNumber text
  | one {before number after} : (∀ c ∈ before, c.isDigit = false ∧ c ≠ '.') →
    (∃ c ∈ number.head?, c.isDigit = true) →
    (∀ c ∈ number, c.isDigit = true ∨ c = ',' ∨ c = '.') →
    (∀ c ∈ after, c.isDigit = false ∧ c ≠ '.') → HasOneNumber (before ++ number ++ after)

def kept (text : Text) : Text := text.filter fun c => c.isDigit || c == '.'

theorem kept_append (s t : Text) : kept (s ++ t) = kept s ++ kept t := List.filter_append ..

theorem kept_eq_nil {s : Text} (h : ∀ c ∈ s, c.isDigit = false ∧ c ≠ '.') : kept s = [] := by
  apply List.filter_eq_nil_iff.mpr
  intro c hc
  obtain ⟨hd, hp⟩ := h c hc
  simp [hd, hp]

theorem kept_eq_filter {s : Text} (h : ∀ c ∈ s, c.isDigit = true ∨ c = ',' ∨ c = '.') :
    kept s = s.filter (· != ',') := by
  apply List.filter_congr
  intro c hc
  rcases h c hc with hd | rfl | rfl
  · have hn : c ≠ ',' := by
      rintro rfl
      cases hd
    simp [hd, hn]
  · rfl
  · rfl

/-- Joined or read as a chunk, digits and points count the same: beyond all finite numbers too,
where the chunk counts as zero and nothing is joined. -/
theorem joinedCount_eq {text : Text} :
    joinedCount text =
      ((Decimal.read? (kept text)).map fun d => (Binary64.ofDecimal d).truncate).getD 0 := by
  rw [joinedCount, joined, kept]
  cases Decimal.read? (text.filter fun c => c.isDigit || c == '.') with
  | none => rfl
  | some d =>
    simp only [Option.map_some, Option.getD_some]
    cases Binary64.ofDecimal d <;> rfl

/-- Points alone are no number. -/
theorem read?_of_points {s : Text} (h : ∀ c ∈ s, c = '.') : Decimal.read? s = none := by
  obtain ⟨n, rfl⟩ : ∃ n, s = List.replicate n '.' := ⟨_, List.eq_replicate_of_mem h⟩
  match n with
  | 0 => rfl
  | 1 => rfl
  | n + 2 => simp [Decimal.read?, List.replicate_succ]

/-- The run with the commas right behind it is the only chunk. -/
theorem chunks_of_number {before number after : Text} (hb : ∀ c ∈ before, c.isDigit = false)
    (hn : ∃ c ∈ number.head?, c.isDigit = true)
    (hc : ∀ c ∈ number, c.isDigit = true ∨ c = ',' ∨ c = '.')
    (ha : ∀ c ∈ after, c.isDigit = false ∧ c ≠ '.') :
    chunks (before ++ number ++ after) = [number ++ after.takeWhile (· == ',')] := by
  have hs := List.takeWhile_append_dropWhile (p := (· == ',')) (l := after)
  have hr : Scans (after.dropWhile (· == ',')) [] := .done fun c hm =>
    (ha c ((List.dropWhile_suffix _).subset hm)).1
  have hh : ∃ c ∈ (number ++ after.takeWhile (· == ',')).head?, c.isDigit = true := by
    obtain ⟨c, hm, hd⟩ := hn
    exact ⟨c, by rw [List.head?_append, hm]; rfl, hd⟩
  have hk : ∀ c ∈ number ++ after.takeWhile (· == ','), c.isDigit = true ∨ c = ',' ∨ c = '.' := by
    intro c hm
    rcases List.mem_append.mp hm with hm | hm
    · exact hc c hm
    · exact .inr (.inl (by simpa using List.mem_takeWhile_imp hm))
  have hd : ∀ c ∈ (after.dropWhile (· == ',')).head?, ¬(c.isDigit = true ∨ c = ',' ∨ c = '.') := by
    intro c hm
    have hn : c ≠ ',' := by simpa using Text.head?_dropWhile _ after c hm
    obtain ⟨hd, hp⟩ := ha c ((List.dropWhile_suffix _).subset (List.mem_of_mem_head? hm))
    simp [hd, hn, hp]
  have ht := Scans.chunk hb hh hk hd hr
  rw [List.append_assoc, List.append_assoc, hs, ← List.append_assoc] at ht
  exact ht.eq_chunks.symm

/-- A cell with one number or none, read as the largest of its numbers or by joining its digits,
counts the same. Its commas may stand anywhere, its points may be too many, and it may be too large
for a binary number. -/
theorem largest_eq_joinedCount {text : Text} (h : HasOneNumber text) (ha : ¬IsAbbreviated text) :
    (largest text).getD 0 = joinedCount text := by
  rw [largest_of_not_isAbbreviated ha, joinedCount_eq]
  cases h with
  | none hd =>
    have hp : ∀ c ∈ kept text, c = '.' := by
      intro c hm
      obtain ⟨hm, hk⟩ := List.mem_filter.mp hm
      simpa [hd c hm] using hk
    rw [chunks_eq_nil hd, read?_of_points hp]
    rfl
  | @one before number after hb hn hc hf =>
    have hk : kept (before ++ number ++ after) = number.filter (· != ',') := by
      rw [kept_append, kept_append, kept_eq_nil hb, kept_eq_nil hf, kept_eq_filter hc,
        List.nil_append, List.append_nil]
    -- the commas behind the number are left out as those inside it
    have hr : (number ++ after.takeWhile (· == ',')).filter (· != ',') =
        number.filter (· != ',') := by
      have ht : (after.takeWhile (· == ',')).filter (· != ',') = [] :=
        List.filter_eq_nil_iff.mpr fun c hm => by
          simpa using List.mem_takeWhile_imp hm
      rw [List.filter_append, ht, List.append_nil]
    rw [chunks_of_number (fun c hm => (hb c hm).1) hn hc hf, hk, List.filterMap_cons, chunkValue?,
      hr]
    cases Decimal.read? (number.filter (· != ',')) with
    | none => rfl
    | some d => rfl

/-- Commas at all places, points too many, and more than a binary number can hold. -/
theorem largest_eq_joinedCount_sentence :
    (HasOneNumber "Up to 1,600,.5,, (peak)".toList ∧
      ¬IsAbbreviated "Up to 1,600,.5,, (peak)".toList ∧
      joinedCount "Up to 1,600,.5,, (peak)".toList = 1600) ∧
    (HasOneNumber "1.2.3 k".toList ∧ ¬IsAbbreviated "1.2.3 k".toList ∧
      joinedCount "1.2.3 k".toList = 0) ∧
    (HasOneNumber (List.replicate 400 '9') ∧ ¬IsAbbreviated (List.replicate 400 '9') ∧
      joinedCount (List.replicate 400 '9') = 0) ∧
    HasOneNumber "...".toList ∧ ¬IsAbbreviated "...".toList ∧ joinedCount "...".toList = 0 := by
  have hu : HasOneNumber ("Up to ".toList ++ "1,600,.5,".toList ++ ", (peak)".toList) :=
    .one (by simp) ⟨'1', rfl, rfl⟩ (by simp) (by simp)
  have hk : HasOneNumber ([] ++ "1.2.3".toList ++ " k".toList) :=
    .one (by simp) ⟨'1', rfl, rfl⟩ (by simp) (by simp)
  have hm : HasOneNumber ([] ++ List.replicate 400 '9' ++ []) :=
    .one (by simp) ⟨'9', rfl, rfl⟩ (fun c hc => .inl (List.eq_of_mem_replicate hc ▸ rfl)) (by simp)
  rw [List.nil_append, List.append_nil] at hm
  have hn : HasOneNumber "...".toList := .none (by simp)
  have hua : ¬IsAbbreviated "Up to 1,600,.5,, (peak)".toList := by decide +kernel
  have hka : ¬IsAbbreviated "1.2.3 k".toList := by decide +kernel
  have hma : ¬IsAbbreviated (List.replicate 400 '9') := by decide +kernel
  have hna : ¬IsAbbreviated "...".toList := by decide +kernel
  exact ⟨⟨hu, hua, (largest_eq_joinedCount hu hua).symm.trans (by decide +kernel)⟩,
    ⟨hk, hka, (largest_eq_joinedCount hk hka).symm.trans (by decide +kernel)⟩,
    ⟨hm, hma, (largest_eq_joinedCount hm hma).symm.trans (by decide +kernel)⟩,
    hn, hna, (largest_eq_joinedCount hn hna).symm.trans (by decide +kernel)⟩

end Amount
end InstanceCatalog
