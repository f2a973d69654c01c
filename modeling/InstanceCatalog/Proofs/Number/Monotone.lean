import InstanceCatalog.Proofs.Number.SingleNumber

namespace InstanceCatalog
namespace Binary64

/-- The least number that is too large to be finite: half a unit above the greatest finite number,
which makes it `2 ^ 1024 - 2 ^ 970`. -/
def overflow : Nat := (2 ^ 54 - 1) * 2 ^ 970

theorem cast_overflow : (overflow : ℚ) = (2 ^ 54 - 1) * 2 ^ (970 : Int) := by
  have hu : (2 : ℚ) ^ (970 : Int) = 2 ^ (970 : Nat) := zpow_natCast 2 970
  rw [hu, overflow, Nat.cast_mul, Nat.cast_pow]
  norm_num only

theorem isFinite_normalize_iff (m : Nat) (e : Int) :
    (normalize m e).isFinite = true ↔
      (if m = 2 ^ 53 then e + 1 else e) ≤ greatestExponent := by
  have hi : ∀ (m : Nat) (e : Int), (if greatestExponent < e then infinite false
      else finite false m e).isFinite = true ↔ e ≤ greatestExponent := by
    intro m e
    split
    · next h => simpa [isFinite] using h
    · next h => simpa [isFinite] using h
  unfold normalize
  by_cases hm : m = 2 ^ 53
  · simp only [if_pos hm, hi]
  · simp only [if_neg hm, hi]

/-- A mantissa is carried from the half below the full one on, since that half goes to the even
mantissa. -/
theorem ne_carry_iff {m : Nat} {q : ℚ} (hn : |(m : ℚ) - q| ≤ 1 / 2)
    (hh : |(m : ℚ) - q| = 1 / 2 → Even m) (hm : m ≤ 2 ^ 53) :
    m ≠ 2 ^ 53 ↔ q < 2 ^ 53 - 1 / 2 := by
  have hb := abs_le.mp hn
  constructor
  · intro hc
    rcases (by omega : m = 2 ^ 53 - 1 ∨ m + 1 ≤ 2 ^ 53 - 1) with rfl | hl
    · have ho : ¬Even (2 ^ 53 - 1) := by decide
      have hl := abs_lt.mp (lt_of_le_of_ne hn fun he => ho (hh he))
      norm_num at hl
      linarith
    · have hl' : (m : ℚ) + 1 ≤ (2 ^ 53 - 1 : Nat) := by exact_mod_cast hl
      norm_num at hl'
      linarith
  · rintro hq rfl
    push_cast at hb
    linarith

/-- Rounding gives a finite number exactly below the overflow. -/
theorem Rounds.isFinite_iff {x : ℚ} {m : Nat} {e : Int} (h : Rounds x m e) :
    (normalize m e).isFinite = true ↔ x < overflow := by
  have hp : (0 : ℚ) < 2 ^ e := by positivity
  have hu : (0 : ℚ) < 2 ^ (970 : Int) := by positivity
  have hz : (2 : ℚ) ^ (971 : Int) = 2 ^ (970 : Int) * 2 := zpow_add_one₀ two_ne_zero 970
  rw [isFinite_normalize_iff, cast_overflow, greatestExponent]
  rcases lt_trichotomy e 971 with he | rfl | he
  · -- below the last exponent all is finite
    have hl := (div_lt_iff₀ hp).mp h.lt
    have hg : (2 : ℚ) ^ e ≤ 2 ^ (970 : Int) := zpow_le_zpow_right₀ one_le_two (by omega)
    have hs : (if m = 2 ^ 53 then e + 1 else e) ≤ 971 := by
      split <;> omega
    generalize (2 : ℚ) ^ (970 : Int) = unit at hg hu ⊢
    exact ⟨fun _ => by linarith, fun _ => hs⟩
  · -- at the last exponent a carry is too much
    have hs : (if m = 2 ^ 53 then (971 : Int) + 1 else 971) ≤ 971 ↔ m ≠ 2 ^ 53 := by
      split <;> omega
    have hd : ((2 : ℚ) ^ 54 - 1) * 2 ^ (970 : Int) = (2 ^ 53 - 1 / 2) * 2 ^ (971 : Int) := by
      rw [hz]
      ring
    rw [hs, ne_carry_iff h.near h.even_of_half h.mantissa_le, hd, div_lt_iff₀ hp]
  · -- beyond it nothing is
    have hl := (le_div_iff₀ hp).mp (h.le_of_least_lt (by unfold leastExponent; omega))
    have hg : (2 : ℚ) ^ (972 : Int) ≤ 2 ^ e := zpow_le_zpow_right₀ one_le_two (by omega)
    have hd : (2 : ℚ) ^ (972 : Int) = 2 ^ (971 : Int) * 2 := zpow_add_one₀ two_ne_zero 971
    have hs : ¬(if m = 2 ^ 53 then e + 1 else e) ≤ 971 := by
      split <;> omega
    rw [hd, hz] at hg
    generalize (2 : ℚ) ^ (970 : Int) = unit at hg hu ⊢
    exact ⟨fun hc => absurd hc hs, fun hc => by linarith⟩

theorem isFinite_ofNat_iff (n : Nat) : (ofNat n).isFinite = true ↔ n < overflow := by
  rcases Nat.eq_zero_or_pos n with rfl | hn
  · exact ⟨fun _ => by unfold overflow; positivity, fun _ => rfl⟩
  · obtain ⟨m, he, hr⟩ := ofRatio_rounds hn Nat.one_pos
    rw [ofNat, he, hr.isFinite_iff, Nat.cast_one, div_one, Nat.cast_lt]

theorem midpoint_le {a b x : ℚ} (h : a < b) (hd : |b - x| ≤ |a - x|) : (a + b) / 2 ≤ x := by
  rcases abs_cases (b - x) with ⟨hb, _⟩ | ⟨hb, _⟩ <;>
    rcases abs_cases (a - x) with ⟨ha, _⟩ | ⟨ha, _⟩ <;> linarith

theorem le_midpoint {a b x : ℚ} (h : a < b) (hd : |a - x| ≤ |b - x|) : x ≤ (a + b) / 2 := by
  rcases abs_cases (b - x) with ⟨hb, _⟩ | ⟨hb, _⟩ <;>
    rcases abs_cases (a - x) with ⟨ha, _⟩ | ⟨ha, _⟩ <;> linarith

/-- The number nearest to the smaller of two is not above the one nearest to the greater: otherwise
the smaller would lie at their midpoint or above it, and the greater at it or below. -/
theorem value_le_of_nearest {m m' : Nat} {e e' : Int} {x y : ℚ}
    (hx : (finite false m e).Nearest x) (hy : (finite false m' e').Nearest y) (h : x < y) :
    value m e ≤ value m' e' := by
  obtain ⟨_, _, hf, hc, hn⟩ := hx
  obtain ⟨-, rfl, rfl⟩ := finite.inj hf
  obtain ⟨_, _, hf, hc', hn'⟩ := hy
  obtain ⟨-, rfl, rfl⟩ := finite.inj hf
  by_contra hl
  have hx := midpoint_le (not_le.mp hl) (hn m' e' hc'.mantissa_lt hc'.least_le).1
  have hy := le_midpoint (not_le.mp hl) (hn' m e hc.mantissa_lt hc.least_le).1
  linarith

/-- The finite number nearest to a natural number. -/
theorem exists_nearest_ofNat {n : Nat} (h : n < overflow) :
    ∃ m e, ofNat n = finite false m e ∧ (finite false m e).Nearest n := by
  have hn := ofRatio_nearest n Nat.one_pos ((isFinite_ofNat_iff n).mpr h)
  rw [Nat.cast_one, div_one] at hn
  obtain ⟨m, e, he, -⟩ := id hn
  exact ⟨m, e, he, he ▸ hn⟩

theorem truncate_ofNat_le {n k : Nat} (h : n ≤ k) (hk : k < overflow) :
    (ofNat n).truncate ≤ (ofNat k).truncate := by
  rcases h.eq_or_lt with rfl | hl
  · exact le_rfl
  · obtain ⟨m, e, he, hn⟩ := exists_nearest_ofNat (hl.trans hk)
    obtain ⟨m', e', he', hn'⟩ := exists_nearest_ofNat hk
    rw [he, he', truncate_finite, truncate_finite]
    exact min_le_min_right _ (Nat.floor_mono (value_le_of_nearest hn hn' (by exact_mod_cast hl)))

theorem truncate_ofNat_pos {n : Nat} (h : 0 < n) (hn : n < overflow) : 0 < (ofNat n).truncate := by
  have h1 : (ofNat 1).truncate = 1 := by decide
  exact h1.ge.trans (truncate_ofNat_le h hn)

theorem truncate_ofNat_of_greatestCount_le {n : Nat} (h : greatestCount ≤ n) (hn : n < overflow) :
    (ofNat n).truncate = greatestCount := by
  have hg : (ofNat greatestCount).truncate = greatestCount := by decide
  exact le_antisymm (truncate_le _) (hg.ge.trans (truncate_ofNat_le h hn))

/-- What is too large to be finite counts as nothing. -/
theorem truncate_ofNat_of_overflow {n : Nat} (h : overflow ≤ n) : (ofNat n).truncate = 0 := by
  have hf : ¬(ofNat n).isFinite = true := by
    rw [isFinite_ofNat_iff]
    exact not_lt.mpr h
  revert hf
  cases ofNat n with
  | nan => exact fun _ => rfl
  | infinite => exact fun _ => rfl
  | finite => exact fun hf => absurd rfl hf

end Binary64

namespace Text

theorem lowercaseAfter_of_lt {s : Text} (h : ∀ c ∈ s, c.toNat < 0x41) (before : Text) :
    lowercaseAfter before s = s := by
  induction s generalizing before with
  | nil => rfl
  | cons c rest ih =>
    obtain ⟨hc, hr⟩ := List.forall_mem_cons.mp h
    obtain ⟨form, he, -, hl, -⟩ := lowercaseAfter_cons before c rest
    rw [he, hl hc, ih hr, List.singleton_append]

end Text

namespace Amount

theorem not_isAbbreviated_of_digits {s : Text} (h : ∀ c ∈ s, c.isDigit = true) :
    ¬IsAbbreviated s := by
  have hl : ∀ c ∈ s, c.toNat < 0x41 := fun c hc => by
    have hd : c.toNat ≤ 57 := (Char.isDigit_iff_toNat.mp (h c hc)).2
    omega
  rintro ⟨numeral, -, rest, hr, blanks, after, hk, -⟩
  rw [Text.trim_of_digits h, Text.lowercase, Text.lowercaseAfter_of_lt hl] at hr
  have hm : 'k' ∈ s := by
    rw [hr, hk]
    simp
  exact absurd (h _ hm) (by decide)

theorem largest_of_digits {s : Text} (hn : s ≠ []) (hd : ∀ c ∈ s, c.isDigit = true) :
    largest s = some (Binary64.ofNat (Text.decimalValue s)).truncate := by
  have hh : ∃ c ∈ s.head?, c.isDigit = true := by
    obtain ⟨c, rest, rfl⟩ := List.exists_cons_of_ne_nil hn
    exact ⟨c, rfl, hd c List.mem_cons_self⟩
  have he : ∀ c ∈ ([] : Text), c.isDigit = false ∧ c ≠ '.' := nofun
  have hc := chunks_of_number (fun c hm => (he c hm).1) hh (fun c hm => .inl (hd c hm)) he
  have hf : s.filter (· != ',') = s := by
    rw [List.filter_eq_self]
    intro c hc
    rw [bne_iff_ne]
    rintro rfl
    exact absurd (hd _ hc) (by decide)
  rw [List.nil_append, List.append_nil] at hc
  rw [largest_of_not_isAbbreviated (not_isAbbreviated_of_digits hd), hc]
  simp only [List.takeWhile_nil, List.append_nil, List.filterMap_cons, chunkValue?, hf,
    Decimal.read?_of_digits hn hd]
  rfl

/-- Of two texts of digits, the one that denotes the greater number counts as much or more, unless
this number is too large to be finite: then it counts as nothing. Below that, what does not fit is
cut off at the greatest count. -/
theorem largest_le_iff {s t : Text} (hs : s ≠ []) (hsd : ∀ c ∈ s, c.isDigit = true) (ht : t ≠ [])
    (htd : ∀ c ∈ t, c.isDigit = true) (h : Text.decimalValue s ≤ Text.decimalValue t) :
    ∃ m n, largest s = some m ∧ largest t = some n ∧
      (m ≤ n ↔ Text.decimalValue t < Binary64.overflow ∨ Text.decimalValue s = 0 ∨
        Binary64.overflow ≤ Text.decimalValue s) ∧
      (greatestCount ≤ Text.decimalValue t → Text.decimalValue t < Binary64.overflow →
        n = greatestCount) ∧
      (Binary64.overflow ≤ Text.decimalValue t → n = 0) := by
  refine ⟨_, _, largest_of_digits hs hsd, largest_of_digits ht htd, ?_,
    Binary64.truncate_ofNat_of_greatestCount_le, Binary64.truncate_ofNat_of_overflow⟩
  generalize Text.decimalValue s = x at h
  generalize Text.decimalValue t = y at h
  rcases lt_or_ge y Binary64.overflow with hy | hy
  · exact iff_of_true (Binary64.truncate_ofNat_le h hy) (.inl hy)
  · rw [Binary64.truncate_ofNat_of_overflow hy, Nat.le_zero]
    constructor
    · intro hz
      by_contra hn
      obtain ⟨-, h0, hx⟩ := not_or.mp hn |>.imp_right not_or.mp
      exact (Binary64.truncate_ofNat_pos (Nat.pos_of_ne_zero h0) (not_le.mp hx)).ne' hz
    · rintro (hl | rfl | hx)
      · exact absurd hl (not_lt.mpr hy)
      · exact Binary64.truncate_of_nearest (Binary64.ofNat_nearest (Nat.zero_le _)) (Nat.zero_le _)
      · exact Binary64.truncate_ofNat_of_overflow hx

/-- A number above `2 ^ 53` and one beyond all counts. -/
theorem largest_le_iff_saturated :
    ∃ m n, largest "9007199254740993".toList = some m ∧
      largest (List.replicate 300 '9') = some n ∧ m ≤ n ∧ n = greatestCount := by
  obtain ⟨m, n, hm, hn, hl, hg, -⟩ := largest_le_iff (s := "9007199254740993".toList)
    (t := List.replicate 300 '9') (by decide) (List.all_eq_true.mp (by decide)) (by decide)
    (fun c hc => List.eq_of_mem_replicate hc ▸ rfl) (by decide +kernel)
  have hf : Text.decimalValue (List.replicate 300 '9') < Binary64.overflow := by decide +kernel
  exact ⟨m, n, hm, hn, hl.mpr (.inl hf), hg (by decide +kernel) hf⟩

/-- A number that is too large to be finite counts less than the number one. -/
theorem largest_not_monotone :
    ¬∀ s t : Text, s ≠ [] → (∀ c ∈ s, c.isDigit = true) → t ≠ [] →
      (∀ c ∈ t, c.isDigit = true) → Text.decimalValue s ≤ Text.decimalValue t →
        ∃ m n, largest s = some m ∧ largest t = some n ∧ m ≤ n := by
  intro h
  have hd : ('1' :: List.replicate 309 '0').all Char.isDigit = true := by decide +kernel
  have hs : largest ['1'] = some 1 := by decide +kernel
  have ht : largest ('1' :: List.replicate 309 '0') = some 0 := by decide +kernel
  obtain ⟨m, n, hm, hn, hl⟩ := h ['1'] ('1' :: List.replicate 309 '0')
    (List.cons_ne_nil _ _) (List.all_eq_true.mp rfl) (List.cons_ne_nil _ _)
    (List.all_eq_true.mp hd) (by decide +kernel)
  rw [hs] at hm
  rw [ht] at hn
  cases hm
  cases hn
  exact absurd hl (by decide)

end Amount
end InstanceCatalog
