import InstanceCatalog.Proofs.Number.Largest
import InstanceCatalog.Proofs.Number.Written
import Mathlib.Algebra.Order.Archimedean.Basic

namespace InstanceCatalog

namespace Decimal

theorem value_eq_div (d : Decimal) : d.value = d.digits / (10 ^ d.places : Nat) := by
  rw [value, zpow_neg, zpow_natCast, div_eq_mul_inv]
  push_cast
  rfl

theorem value_nonneg (d : Decimal) : 0 ≤ d.value := by
  rw [value_eq_div]
  positivity

end Decimal

namespace Binary64

/-- An integer above a power of two is a unit there away from all other numbers. -/
theorem Representable.unit_le {y : ℚ} (hy : Representable y) {n k : Nat} (hk : k ≤ 52)
    (hl : 2 ^ k < n) (hne : y ≠ n) : (2 : ℚ) ^ ((k : Int) - 52) ≤ |y - n| := by
  obtain ⟨m, e, hm, -, rfl⟩ := hy
  by_cases he : (k : Int) - 52 ≤ e
  · -- both are multiples of the unit
    have hv : value (n * 2 ^ (52 - k)) ((k : Int) - 52) = n := by
      rw [show 52 - k = (0 - ((k : Int) - 52)).toNat by omega, ← value_of_le n (by omega)]
      simp [value]
    rw [value_of_le m he] at hne ⊢
    generalize m * 2 ^ (e - ((k : Int) - 52)).toNat = j at hne ⊢
    have hj : j ≠ n * 2 ^ (52 - k) := fun hj => hne (by rw [hj, hv])
    have hp : (0 : ℚ) < 2 ^ ((k : Int) - 52) := by positivity
    rw [abs_value_sub, ← hv, value, mul_div_cancel_right₀ _ hp.ne']
    exact le_mul_of_one_le_left hp.le (one_le_abs_sub hj)
  · have hv := value_lt_of_lt hm (not_le.mp he)
    have hu : (2 : ℚ) ^ ((k : Int) - 52) ≤ 1 := zpow_le_one_of_nonpos₀ one_le_two (by omega)
    have hn : (2 : ℚ) ^ k + 1 ≤ n := by exact_mod_cast hl
    have hk : value (2 ^ 52) ((k : Int) - 52) = 2 ^ k := by
      rw [value, zpow_sub₀ two_ne_zero, zpow_natCast, zpow_ofNat, Nat.cast_pow, Nat.cast_ofNat]
      exact mul_div_cancel₀ _ (by positivity)
    rw [abs_sub_comm, le_abs]
    exact .inl (by linarith)

structure Rounding (q x : ℚ) : Prop where
  representable : Representable x
  nearest : ∀ y, Representable y → |x - q| ≤ |y - q|
  /-- Below a power of two the error is half a unit there. -/
  error : ∀ b : Int, leastExponent ≤ b - 52 → q < 2 ^ (b + 1) → |x - q| ≤ 2 ^ (b - 53)

theorem ofRatio_error {num den : Nat} (hd : 0 < den) {m : Nat} {e : Int}
    (h : ofRatio num den = finite false m e) {b : Int} (hb : leastExponent ≤ b - 52)
    (hq : (num : ℚ) / den < 2 ^ (b + 1)) : |value m e - num / den| ≤ 2 ^ (b - 53) := by
  rcases Nat.eq_zero_or_pos num with rfl | hn
  · obtain ⟨-, rfl, -⟩ := finite.inj h
    rw [value, Nat.cast_zero, zero_mul, zero_div, sub_self, abs_zero]
    positivity
  · obtain ⟨m', hm', hr⟩ := ofRatio_rounds hn hd
    have hl := (zpow_lt_zpow_iff_right₀ one_lt_two).mp ((floorLog2_spec hn hd).1.trans_lt hq)
    have he : max (floorLog2 num den - 52) leastExponent ≤ b - 52 := by omega
    generalize max (floorLog2 num den - 52) leastExponent = e' at hm' hr he
    rw [value_normalize (hm' ▸ h), abs_value_sub]
    calc |(m' : ℚ) - num / den / 2 ^ e'| * 2 ^ e' ≤ 1 / 2 * 2 ^ e' :=
          mul_le_mul_of_nonneg_right hr.near (by positivity)
      _ ≤ 1 / 2 * 2 ^ (b - 52) :=
          mul_le_mul_of_nonneg_left (zpow_le_zpow_right₀ one_le_two he) (by norm_num)
      _ = 2 ^ (b - 53) := by
          rw [show b - 53 = b - 52 - 1 by omega, zpow_sub_one₀ two_ne_zero]
          ring

theorem exists_rounding (num : Nat) {den : Nat} (hd : 0 < den) (hq : (num : ℚ) / den < 2 ^ 64) :
    ∃ m e, ofRatio num den = finite false m e ∧ Rounding (num / den) (value m e) := by
  obtain ⟨m, e, he, hc, hn⟩ := ofRatio_nearest num hd (isFinite_ofRatio hd hq)
  refine ⟨m, e, he, ⟨m, e, hc.mantissa_lt, hc.least_le, rfl⟩, ?_, fun b => ofRatio_error hd he⟩
  rintro _ ⟨m', e', hm', he', rfl⟩
  exact (hn m' e' hm' he').1

namespace Rounding

variable {q x : ℚ}

theorem eq_of_representable (h : Rounding q x) (hq : Representable q) : x = q := by
  have hn := h.nearest q hq
  rw [sub_self, abs_zero] at hn
  exact sub_eq_zero.mp (abs_nonpos_iff.mp hn)

/-- The error is one part in `2 ^ 53` at most. -/
theorem relative (h : Rounding q x) (hq : 2 ^ (-1022 : Int) ≤ q) : |x - q| ≤ q / 2 ^ 53 := by
  have hp : (0 : ℚ) < q := (by positivity : (0 : ℚ) < 2 ^ (-1022 : Int)).trans_le hq
  obtain ⟨b, hl, hu⟩ := exists_mem_Ico_zpow hp one_lt_two
  have hb := (zpow_lt_zpow_iff_right₀ one_lt_two).mp (hq.trans_lt hu)
  refine (h.error b (by unfold leastExponent; omega) hu).trans ?_
  rw [zpow_sub₀ two_ne_zero, zpow_ofNat]
  exact div_le_div_of_nonneg_right hl (by positivity)

/-- What is nearer than half a unit to an integer is rounded to it. -/
theorem eq_natCast (h : Rounding q x) {n k : Nat} (hk : k ≤ 52) (hl : 2 ^ k < n)
    (hu : n < 2 ^ (k + 1)) (hn : |q - n| < 2 ^ ((k : Int) - 53)) : x = n := by
  have hr : Representable n :=
    representable_natCast (hu.le.trans (Nat.pow_le_pow_right two_pos (by omega)))
  have hd : (2 : ℚ) ^ ((k : Int) - 52) = 2 * 2 ^ ((k : Int) - 53) := by
    rw [show (k : Int) - 52 = k - 53 + 1 by omega, zpow_add_one₀ two_ne_zero, mul_comm]
  by_contra hne
  have h1 := h.representable.unit_le hk hl hne
  have h2 := abs_sub_le x q n
  have h3 := h.nearest n hr
  rw [abs_sub_comm (n : ℚ) q] at h3
  linarith

end Rounding

theorem cast_timesNat (m k : Nat) (e : Int) :
    ((m * k * 2 ^ e.toNat : Nat) : ℚ) / (2 ^ (-e).toNat : Nat) = k * value m e := by
  rw [cast_value, value, value]
  push_cast
  ring

/-- The numeral is rounded, and the product once more. -/
theorem truncate_thousands {d : Decimal} (h : 1000 * d.value < 2 ^ 53) :
    ∃ x y, Rounding d.value x ∧ Rounding (1000 * x) y ∧ 0 ≤ y ∧
      ((ofDecimal d).timesNat 1000).truncate = ⌊y⌋₊ := by
  have hq := d.value_eq_div
  have hp : 0 < 10 ^ d.places := by positivity
  obtain ⟨m, e, hx, hrx⟩ := exists_rounding d.digits hp (by rw [← hq]; linarith)
  rw [← hq] at hrx
  have hex := abs_le.mp (hrx.error 43 (by decide) (by norm_num; linarith))
  norm_num at hex
  have hz := cast_timesNat m 1000 e
  have hp : 0 < 2 ^ (-e).toNat := by positivity
  obtain ⟨m', e', hy, hry⟩ := exists_rounding (m * 1000 * 2 ^ e.toNat) hp
    (by rw [hz]; push_cast; linarith)
  rw [hz] at hry
  have hey := abs_le.mp (hry.error 53 (by decide) (by norm_num; linarith))
  norm_num at hey
  refine ⟨_, _, hrx, hry, mul_nonneg (Nat.cast_nonneg _) (by positivity), ?_⟩
  have ht : (ofDecimal d).timesNat 1000 = finite false m' e' := by
    rw [ofDecimal, hx]
    exact hy
  rw [ht, truncate_finite, Nat.min_eq_left]
  refine Nat.floor_le_of_le ?_
  norm_num [greatestCount]
  linarith

section Thousands
variable {q x y : ℚ}

/-- Two roundings are off by one part in `2 ^ 51` at most. -/
theorem thousands_error (hx : Rounding q x) (hy : Rounding (1000 * x) y) (h : 1 / 2 ≤ 1000 * q) :
    |y - 1000 * q| ≤ 1000 * q / 2 ^ 51 := by
  have hs : (2 : ℚ) ^ (-1022 : Int) ≤ 1 / 2 ^ 11 := by
    rw [one_div, ← zpow_natCast, ← zpow_neg]
    exact zpow_le_zpow_right₀ one_le_two (by decide)
  obtain ⟨hxl, hxu⟩ := abs_le.mp (hx.relative (hs.trans (by linarith)))
  obtain ⟨hyl, hyu⟩ := abs_le.mp (hy.relative (hs.trans (by linarith)))
  rw [abs_le]
  constructor <;> linarith

/-- What is below one half stays below one. -/
theorem thousands_lt_one (hx : Rounding q x) (hy : Rounding (1000 * x) y) (h : 1000 * q < 1 / 2) :
    y < 1 := by
  have hex := abs_le.mp (hx.error (-10) (by decide) (by norm_num; linarith))
  norm_num at hex
  have hey := abs_le.mp (hy.error 0 (by decide) (by norm_num; linarith))
  norm_num at hey
  linarith

/-- A numeral that is a number itself gives its integer. -/
theorem thousands_eq_of_representable (hx : Rounding q x) (hy : Rounding (1000 * x) y)
    (hq : Representable q) {n : Nat} (hn : 1000 * q = n) (hu : n < 2 ^ 53) : y = n := by
  rw [hx.eq_of_representable hq, hn] at hy
  exact hy.eq_of_representable (representable_natCast hu.le)

theorem two_pow_mul_zpow (n : Nat) (e : Int) : (2 : ℚ) ^ n * 2 ^ e = 2 ^ (n + e) := by
  rw [zpow_add₀ two_ne_zero, zpow_natCast]

theorem two_pow_succ_eq (k : Nat) : (2 : ℚ) ^ (k + 1) = 2 ^ 10 * 2 ^ ((k : Int) - 9) := by
  rw [two_pow_mul_zpow, ← zpow_natCast]
  congr 1
  push_cast
  ring

/-- Up to `1000` times a power of two, from where on the product has the finer unit, an integer
that is no power of two comes out as it is. -/
theorem thousands_eq_of_lt (hx : Rounding q x) (hy : Rounding (1000 * x) y) {n k : Nat}
    (hn : 1000 * q = n) (hk : k ≤ 52) (hl : 2 ^ k < n)
    (hu : (n : ℚ) < 1000 * 2 ^ ((k : Int) - 9)) : y = n := by
  have hp : (0 : ℚ) < 2 ^ ((k : Int) - 63) := by positivity
  have hk1 : (n : ℚ) < 2 ^ (k + 1) := by
    rw [two_pow_succ_eq]
    exact hu.trans (by gcongr; norm_num)
  have hx := hx.error ((k : Int) - 10) (by unfold leastExponent; omega) (by
    rw [show (k : Int) - 10 + 1 = k - 9 by omega]
    linarith)
  rw [show (k : Int) - 10 - 53 = k - 63 by omega] at hx
  refine hy.eq_natCast hk hl (by exact_mod_cast hk1) ?_
  rw [← hn, ← mul_sub, abs_mul, abs_of_pos (by norm_num)]
  calc 1000 * |x - q| ≤ 1000 * 2 ^ ((k : Int) - 63) := by linarith
    _ < 2 ^ 10 * 2 ^ ((k : Int) - 63) := by linarith
    _ = 2 ^ ((k : Int) - 53) := by
        rw [two_pow_mul_zpow]
        congr 1
        push_cast
        ring

end Thousands

/-- The count is below the exact amount by less than one and by the error, and above it by no more
than the error. -/
theorem truncate_thousands_bounds {d : Decimal} (h : 1000 * d.value < 2 ^ 53) :
    1000 * d.value * (1 - 1 / 2 ^ 51) - 1 < ((ofDecimal d).timesNat 1000).truncate ∧
      ((ofDecimal d).timesNat 1000).truncate ≤ 1000 * d.value * (1 + 1 / 2 ^ 51) := by
  obtain ⟨x, y, hx, hy, hn, ht⟩ := truncate_thousands h
  have hd := d.value_nonneg
  rw [ht]
  rcases lt_or_ge (1000 * d.value) (1 / 2) with hs | hs
  · rw [Nat.floor_eq_zero.mpr (thousands_lt_one hx hy hs), Nat.cast_zero]
    constructor <;> linarith
  · obtain ⟨hl, hu⟩ := abs_le.mp (thousands_error hx hy hs)
    have hf := Nat.floor_le hn
    have hc := Nat.lt_floor_add_one y
    constructor <;> linarith

/-- A power of two comes out as it is. -/
theorem truncate_thousands_pow {d : Decimal} {k : Nat} (hk : k < 53) (h : 1000 * d.value = 2 ^ k) :
    ((ofDecimal d).timesNat 1000).truncate = 2 ^ k := by
  have hd : ofDecimal d = ofRatio (2 ^ k) 1000 := by
    refine ofRatio_congr (by positivity) (by decide) ?_
    rw [← Decimal.value_eq_div, eq_div_iff (by norm_num)]
    push_cast
    linarith
  have hp : ∀ k < 53, ((ofRatio (2 ^ k) 1000).timesNat 1000).truncate = 2 ^ k := by decide +kernel
  rw [hd, hp k hk]

/-- An integer is found exactly if the numeral needs no rounding, or if the integer does not lie
between `1000` and `1024` times the same power of two. There the numeral is in the next binade
already, with a unit twice as great, and the product is not. -/
theorem truncate_thousands_of_integer {d : Decimal} {n : Nat} (hn : 1000 * d.value = n)
    (hu : n < 2 ^ 53)
    (h : Representable d.value ∨ ∀ b : Int, ¬(1000 * (2 : ℚ) ^ b ≤ n ∧ (n : ℚ) < 1024 * 2 ^ b)) :
    ((ofDecimal d).timesNat 1000).truncate = n := by
  obtain ⟨x, y, hx, hy, -, ht⟩ := truncate_thousands (d := d) (by rw [hn]; exact_mod_cast hu)
  suffices hs : y = n ∨ ∃ k < 53, n = 2 ^ k by
    rcases hs with rfl | ⟨k, hk, rfl⟩
    · rw [ht, Nat.floor_natCast]
    · exact truncate_thousands_pow hk (by rw [hn]; push_cast; rfl)
  rcases h with h | h
  · exact .inl (thousands_eq_of_representable hx hy h hn hu)
  · rcases Nat.eq_zero_or_pos n with rfl | hp
    · have hz : d.value = (0 : Nat) := by
        rw [Nat.cast_zero] at hn ⊢
        linarith
      exact .inl (thousands_eq_of_representable hx hy (hz ▸ representable_natCast (by decide)) hn hu)
    · have hl := Nat.log2_self_le hp.ne'
      have hk : n.log2 < 53 := (Nat.log2_lt hp.ne').mpr hu
      rcases hl.eq_or_lt with he | hl
      · exact .inr ⟨n.log2, hk, he.symm⟩
      · refine .inl (thousands_eq_of_lt hx hy hn (by omega) hl (not_le.mp fun hb => ?_))
        refine h _ ⟨hb, ?_⟩
        calc (n : ℚ) < 2 ^ (n.log2 + 1) := by exact_mod_cast Nat.lt_log2_self
          _ = 2 ^ 10 * 2 ^ ((n.log2 : Int) - 9) := two_pow_succ_eq n.log2
          _ = 1024 * 2 ^ ((n.log2 : Int) - 9) := by norm_num

end Binary64

namespace Amount
open Binary64

def thousandsOf (numeral : Text) : ℚ := 1000 * (Decimal.ofText numeral).value

/-- A shorthand is counted up to the error of two roundings: as the integer part of its exact amount
wherever the error reaches no integer, and as the amount itself if that is an integer that the
roundings keep. -/
theorem largest_of_shorthand {text numeral : Text}
    (h : Shorthand (Text.lowercase (Text.trim text)) numeral) (hv : thousandsOf numeral < 2 ^ 53) :
    ∃ n : Nat, largest text = some n ∧
      (thousandsOf numeral * (1 - 1 / 2 ^ 51) - 1 < n ∧
        n ≤ thousandsOf numeral * (1 + 1 / 2 ^ 51)) ∧
      (⌊thousandsOf numeral⌋₊ ≤ thousandsOf numeral * (1 - 1 / 2 ^ 51) →
        thousandsOf numeral * (1 + 1 / 2 ^ 51) < ⌊thousandsOf numeral⌋₊ + 1 →
        n = ⌊thousandsOf numeral⌋₊) ∧
      ∀ k : Nat, thousandsOf numeral = k →
        (Representable (Decimal.ofText numeral).value ∨
          ∀ b : Int, ¬(1000 * (2 : ℚ) ^ b ≤ k ∧ (k : ℚ) < 1024 * 2 ^ b)) →
        n = k := by
  have hl : largest text = some ((ofDecimal (.ofText numeral)).timesNat 1000).truncate := by
    rw [largest, thousands?_of_shorthand h]
  obtain ⟨hb, hu⟩ := truncate_thousands_bounds hv
  refine ⟨_, hl, ⟨hb, hu⟩, fun hf hc => ?_, fun k hk => ?_⟩
  · have h1 := hf.trans_lt (sub_lt_iff_lt_add.mp hb)
    have h2 := hu.trans_lt hc
    exact Nat.le_antisymm (Nat.lt_succ_iff.mp (by exact_mod_cast h2))
      (Nat.lt_succ_iff.mp (by exact_mod_cast h1))
  · exact truncate_thousands_of_integer hk (by rw [hk] at hv; exact_mod_cast hv)

theorem largest_of_shorthand_fine :
    Shorthand (Text.lowercase (Text.trim " 2.1 K".toList)) "2.1".toList ∧
      thousandsOf "2.1".toList < 2 ^ 53 ∧ largest " 2.1 K".toList = some 2100 := by
  have hs : Shorthand (Text.lowercase (Text.trim " 2.1 K".toList)) "2.1".toList := by
    have hp : IsNumeral ("2".toList ++ '.' :: "1".toList) :=
      .point (by simp) (by simp) (by simp) (by simp)
    exact ⟨hp, " k".toList, by decide +kernel, [' '], [], rfl, by simp [Text.isBlank], by simp⟩
  have hv : thousandsOf "2.1".toList = 2100 := by
    have hd : Decimal.ofText "2.1".toList = ⟨21, 1⟩ := by decide
    norm_num [thousandsOf, hd, Decimal.value]
  have hu : thousandsOf "2.1".toList < 2 ^ 53 := by
    rw [hv]
    norm_num
  obtain ⟨n, hn, -, -, hk⟩ := largest_of_shorthand hs hu
  refine ⟨hs, hu, ?_⟩
  rw [hn, hk 2100 hv (.inr ?_)]
  rintro b ⟨hl, hg⟩
  push_cast at hl hg
  have h1 : (2 : ℚ) ^ b < 2 ^ (2 : Int) := by
    norm_num
    linarith
  have h2 : (2 : ℚ) ^ (1 : Int) < 2 ^ b := by
    norm_num
    linarith
  have hb1 := (zpow_lt_zpow_iff_right₀ one_lt_two).mp h1
  have hb2 := (zpow_lt_zpow_iff_right₀ one_lt_two).mp h2
  omega

theorem largest_of_shorthand_below : ¬∀ text numeral,
    Shorthand (Text.lowercase (Text.trim text)) numeral → thousandsOf numeral < 2 ^ 53 →
      largest text = some ⌊thousandsOf numeral⌋₊ := by
  intro h
  have hs : Shorthand (Text.lowercase (Text.trim "32.3k".toList)) "32.3".toList := by
    have hp : IsNumeral ("32".toList ++ '.' :: "3".toList) :=
      .point (by simp) (by simp) (by simp) (by simp)
    exact ⟨hp, ['k'], by decide +kernel, [], [], rfl, by simp, by simp⟩
  have hv : thousandsOf "32.3".toList = (32300 : Nat) := by
    have hd : Decimal.ofText "32.3".toList = ⟨323, 1⟩ := by decide
    norm_num [thousandsOf, hd, Decimal.value]
  have hl : largest "32.3k".toList = some 32299 := by decide +kernel
  have hc := h _ _ hs (by rw [hv]; norm_num)
  rw [hl, hv, Nat.floor_natCast] at hc
  cases hc

end Amount
end InstanceCatalog
