import InstanceCatalog.Number.Binary64
import Mathlib.Algebra.Order.Field.Power
import Mathlib.Algebra.Order.Field.Rat
import Mathlib.Algebra.Order.Floor.Semifield
import Mathlib.Data.Rat.Floor
import Mathlib.Tactic.FieldSimp
import Mathlib.Tactic.Linarith
import Mathlib.Tactic.Positivity
import Mathlib.Tactic.Ring

namespace InstanceCatalog

theorem roundDiv_near (num : Nat) {den : Nat} (h : 0 < den) :
    |(roundDiv num den : ℚ) - num / den| ≤ 1 / 2 ∧
      (|(roundDiv num den : ℚ) - num / den| = 1 / 2 → Even (roundDiv num den)) := by
  have hd : (0 : ℚ) < den := by exact_mod_cast h
  have hn : (num : ℚ) = den * (num / den : Nat) + (num % den : Nat) := by
    exact_mod_cast (Nat.div_add_mod num den).symm
  have hq : (num : ℚ) / den = (num / den : Nat) + (num % den : Nat) / den := by
    rw [hn]
    field_simp
  have ht : (0 : ℚ) ≤ (num % den : Nat) / den := by positivity
  unfold roundDiv
  simp only
  split
  · next hl =>
    have hl' : ((num % den : Nat) : ℚ) / den < 1 / 2 := by
      rw [div_lt_div_iff₀ hd two_pos]
      exact_mod_cast (by omega : num % den * 2 < 1 * den)
    rw [hq, sub_add_cancel_left, abs_neg, abs_of_nonneg ht]
    exact ⟨hl'.le, fun he => absurd he hl'.ne⟩
  · split
    · next hl =>
      have hl' : (1 : ℚ) / 2 < (num % den : Nat) / den := by
        rw [div_lt_div_iff₀ two_pos hd]
        exact_mod_cast (by omega : 1 * den < num % den * 2)
      have hu : ((num % den : Nat) : ℚ) / den < 1 := by
        rw [div_lt_one hd]
        exact_mod_cast Nat.mod_lt num h
      rw [hq, Nat.cast_add, Nat.cast_one, add_sub_add_left_eq_sub, abs_of_pos (by linarith)]
      exact ⟨by linarith, fun he => by linarith⟩
    · next hl hu =>
      have he : ((num % den : Nat) : ℚ) / den = 1 / 2 := by
        rw [div_eq_div_iff hd.ne' two_ne_zero]
        exact_mod_cast (by omega : num % den * 2 = 1 * den)
      rw [hq, he, Nat.cast_add, add_sub_add_left_eq_sub]
      refine ⟨?_, fun _ => Nat.even_iff.mpr (by omega)⟩
      rcases Nat.mod_two_eq_zero_or_one (num / den) with hz | hz <;> rw [hz] <;> norm_num

theorem one_le_abs_sub {m k : Nat} (h : k ≠ m) : (1 : ℚ) ≤ |(k : ℚ) - m| := by
  have hi : (1 : ℤ) ≤ |(k : ℤ) - m| := Int.one_le_abs (by omega)
  exact_mod_cast hi

/-- No other integer is nearer than one that is off by at most one half. -/
theorem near_le {m k : Nat} {x : ℚ} (h : |(m : ℚ) - x| ≤ 1 / 2) (hk : k ≠ m) :
    |(m : ℚ) - x| ≤ |(k : ℚ) - x| ∧ (|(m : ℚ) - x| = |(k : ℚ) - x| → |(m : ℚ) - x| = 1 / 2) := by
  have hr := one_le_abs_sub hk
  have ht := abs_sub_le (k : ℚ) x m
  rw [abs_sub_comm x] at ht
  exact ⟨by linarith, fun he => by linarith⟩

theorem zpow_eq_div {b : ℚ} (hb : b ≠ 0) (e : Int) : b ^ e = b ^ e.toNat / b ^ (-e).toNat := by
  have he : e = (e.toNat : Int) - (-e).toNat := by omega
  conv_lhs => rw [he]
  rw [zpow_sub₀ hb, zpow_natCast, zpow_natCast]

theorem two_zpow_eq (e : Int) : (2 : ℚ) ^ e = 2 ^ e.toNat / 2 ^ (-e).toNat :=
  zpow_eq_div two_ne_zero e

/-- What the scaled quotient of `ofRatio` denotes. -/
theorem cast_scaled_div (num den : Nat) (e : Int) :
    ((num * 2 ^ (-e).toNat : Nat) : ℚ) / (den * 2 ^ e.toNat : Nat) = num / den / 2 ^ e := by
  rw [two_zpow_eq]
  push_cast
  rw [div_div_div_eq, mul_comm (den : ℚ)]

theorem floorLog2_spec {num den : Nat} (hn : 0 < num) (hd : 0 < den) :
    (2 : ℚ) ^ floorLog2 num den ≤ num / den ∧
      (num : ℚ) / den < 2 ^ (floorLog2 num den + 1) := by
  have hd' : (0 : ℚ) < den := by exact_mod_cast hd
  have hn1 : (2 : ℚ) ^ num.log2 ≤ num := by exact_mod_cast Nat.log2_self_le hn.ne'
  have hn2 : (num : ℚ) < 2 ^ (num.log2 + 1) := by exact_mod_cast Nat.lt_log2_self (n := num)
  have hd1 : (2 : ℚ) ^ den.log2 ≤ den := by exact_mod_cast Nat.log2_self_le hd.ne'
  have hd2 : (den : ℚ) < 2 ^ (den.log2 + 1) := by exact_mod_cast Nat.lt_log2_self (n := den)
  have hu : (num : ℚ) / den < 2 ^ ((num.log2 : Int) - den.log2 + 1) := by
    have hz : ((num.log2 : Int) - den.log2 + 1) = ((num.log2 + 1 : Nat) : Int) - den.log2 := by
      omega
    rw [hz, zpow_sub₀ two_ne_zero, zpow_natCast, zpow_natCast]
    exact div_lt_div₀ hn2 hd1 (by positivity) (by positivity)
  have hl : (2 : ℚ) ^ ((num.log2 : Int) - den.log2 - 1) ≤ num / den := by
    have hz : ((num.log2 : Int) - den.log2 - 1) = (num.log2 : Int) - (den.log2 + 1 : Nat) := by
      omega
    rw [hz, zpow_sub₀ two_ne_zero, zpow_natCast, zpow_natCast]
    exact div_le_div₀ (by positivity) hn1 hd' hd2.le
  -- the test that picks one of the two candidates is exact
  have hc : ∀ e : Int, den * 2 ^ e.toNat ≤ num * 2 ^ (-e).toNat ↔ (2 : ℚ) ^ e ≤ num / den := by
    intro e
    rw [two_zpow_eq, div_le_div_iff₀ (by positivity) hd', mul_comm den]
    exact_mod_cast Iff.rfl
  unfold floorLog2
  simp only
  split
  · next h => exact ⟨(hc _).mp h, hu⟩
  · next h =>
    rw [sub_add_cancel]
    exact ⟨hl, lt_of_not_ge fun hg => h ((hc _).mpr hg)⟩

namespace Binary64

def value (m : Nat) (e : Int) : ℚ := m * 2 ^ e

/-- The mantissas and exponents of finite numbers. A mantissa has all its bits, except at the
least exponent. -/
structure Canonical (m : Nat) (e : Int) : Prop where
  mantissa_lt : m < 2 ^ 53
  least_le : leastExponent ≤ e
  le_greatest : e ≤ greatestExponent
  least_of_lt : m < 2 ^ 52 → e = leastExponent

/-- The finite number is no farther from `x` than any other, and only an even mantissa lets another
be as near. -/
def Nearest (b : Binary64) (x : ℚ) : Prop :=
  ∃ m e, b = finite false m e ∧ Canonical m e ∧
    ∀ m' e', m' < 2 ^ 53 → leastExponent ≤ e' →
      |value m e - x| ≤ |value m' e' - x| ∧
        (|value m e - x| = |value m' e' - x| → value m' e' = value m e ∨ Even m)

theorem abs_value_sub (k : Nat) (e : Int) (x : ℚ) :
    |value k e - x| = |(k : ℚ) - x / 2 ^ e| * 2 ^ e := by
  have hp : (0 : ℚ) < 2 ^ e := by positivity
  have hs : value k e - x = (k - x / 2 ^ e) * 2 ^ e := by
    rw [value, sub_mul, div_mul_cancel₀ _ hp.ne']
  rw [hs, abs_mul, abs_of_pos hp]

/-- A value at a greater exponent is a multiple of the unit of a smaller one. -/
theorem value_of_le (m : Nat) {e e' : Int} (h : e ≤ e') :
    value m e' = value (m * 2 ^ (e' - e).toNat) e := by
  have hz : e' = ((e' - e).toNat : Int) + e := by omega
  rw [value, value]
  conv_lhs => rw [hz]
  rw [zpow_add₀ two_ne_zero, zpow_natCast]
  push_cast
  ring

/-- A value at a smaller exponent lies below the least full mantissa. -/
theorem value_lt_of_lt {m : Nat} {e e' : Int} (hm : m < 2 ^ 53) (h : e' < e) :
    value m e' < value (2 ^ 52) e := by
  have hm' : (m : ℚ) < 2 ^ 53 := by exact_mod_cast hm
  have hz : (2 : ℚ) ^ e' ≤ 2 ^ (e - 1) := zpow_le_zpow_right₀ one_le_two (by omega)
  have hh : (2 : ℚ) ^ (e - 1) = 2 ^ e / 2 := zpow_sub_one₀ two_ne_zero e
  rw [hh] at hz
  calc value m e' < 2 ^ 53 * 2 ^ e' := mul_lt_mul_of_pos_right hm' (by positivity)
    _ ≤ 2 ^ 53 * (2 ^ e / 2) := mul_le_mul_of_nonneg_left hz (by positivity)
    _ = value (2 ^ 52) e := by
        rw [value, Nat.cast_pow, Nat.cast_ofNat]
        ring

theorem value_carry (e : Int) : value (2 ^ 52) (e + 1) = value (2 ^ 53) e := by
  rw [value, value, zpow_add_one₀ two_ne_zero]
  push_cast
  ring

/-- What rounding `x` at an exponent gives, before a carry moves to the next exponent. -/
structure Rounds (x : ℚ) (m : Nat) (e : Int) : Prop where
  least_le : leastExponent ≤ e
  near : |(m : ℚ) - x / 2 ^ e| ≤ 1 / 2
  even_of_half : |(m : ℚ) - x / 2 ^ e| = 1 / 2 → Even m
  lt : x / 2 ^ e < 2 ^ 53
  le_of_least_lt : leastExponent < e → 2 ^ 52 ≤ x / 2 ^ e

theorem ofRatio_rounds {num den : Nat} (hn : 0 < num) (hd : 0 < den) :
    ∃ m, ofRatio num den = normalize m (max (floorLog2 num den - 52) leastExponent) ∧
      Rounds (num / den) m (max (floorLog2 num den - 52) leastExponent) := by
  obtain ⟨hl, hu⟩ := floorLog2_spec hn hd
  refine ⟨_, by rw [ofRatio, if_neg hn.ne'], ?_⟩
  generalize he : max (floorLog2 num den - 52) leastExponent = e
  have hp : 0 < den * 2 ^ e.toNat := by positivity
  have hr := roundDiv_near (num * 2 ^ (-e).toNat) hp
  rw [cast_scaled_div] at hr
  refine ⟨by omega, hr.1, hr.2, ?_, ?_⟩
  · rw [div_lt_iff₀ (by positivity), ← zpow_natCast, ← zpow_add₀ two_ne_zero]
    exact hu.trans_le (zpow_le_zpow_right₀ one_le_two (by push_cast; omega))
  · intro hg
    rw [le_div_iff₀ (by positivity), ← zpow_natCast, ← zpow_add₀ two_ne_zero]
    exact (zpow_le_zpow_right₀ one_le_two (by push_cast; omega)).trans hl

namespace Rounds

variable {x : ℚ} {m : Nat} {e : Int}

theorem mantissa_le (h : Rounds x m e) : m ≤ 2 ^ 53 := by
  have hn := abs_le.mp h.near
  have hl := h.lt
  have hm : (m : ℚ) < (2 ^ 53 : Nat) + 1 := by
    push_cast
    linarith
  exact_mod_cast Nat.lt_succ_iff.mp (by exact_mod_cast hm)

theorem least_of_lt (h : Rounds x m e) (hm : m < 2 ^ 52) : e = leastExponent := by
  by_contra hne
  have hg := h.le_of_least_lt (lt_of_le_of_ne h.least_le (Ne.symm hne))
  have hn := abs_le.mp h.near
  have hm' : (m : ℚ) + 1 ≤ 2 ^ 52 := by exact_mod_cast hm
  linarith

/-- No other multiple of the unit is nearer. -/
theorem multiple_le (h : Rounds x m e) (k : Nat) :
    |value m e - x| ≤ |value k e - x| ∧
      (|value m e - x| = |value k e - x| → k = m ∨ Even m) := by
  have hp : (0 : ℚ) < 2 ^ e := by positivity
  by_cases hk : k = m
  · rw [hk]
    exact ⟨le_rfl, fun _ => .inl rfl⟩
  · obtain ⟨hl, hh⟩ := near_le h.near hk
    rw [abs_value_sub, abs_value_sub, mul_le_mul_iff_left₀ hp, mul_left_inj' hp.ne']
    exact ⟨hl, fun heq => .inr (h.even_of_half (hh heq))⟩

/-- Rounding at an exponent is nearest among all finite numbers. -/
theorem nearest (h : Rounds x m e) {m' : Nat} {e' : Int} (hm : m' < 2 ^ 53)
    (he : leastExponent ≤ e') :
    |value m e - x| ≤ |value m' e' - x| ∧
      (|value m e - x| = |value m' e' - x| → value m' e' = value m e ∨ Even m) := by
  by_cases hc : e ≤ e'
  · obtain ⟨hl, hh⟩ := h.multiple_le (m' * 2 ^ (e' - e).toNat)
    rw [value_of_le m' hc]
    exact ⟨hl, fun heq => (hh heq).imp (fun hk => by rw [hk]) id⟩
  · have hv : value m' e' < value (2 ^ 52) e := value_lt_of_lt hm (by omega)
    have hx : value (2 ^ 52) e ≤ x := by
      rw [value, Nat.cast_pow, Nat.cast_ofNat]
      exact (le_div_iff₀ (by positivity)).mp (h.le_of_least_lt (by omega))
    have hg := (h.multiple_le (2 ^ 52)).1
    -- from below, the least full mantissa is strictly nearer than the other number
    have hl : |value (2 ^ 52) e - x| = x - value (2 ^ 52) e := by
      rw [abs_sub_comm, abs_of_nonneg (sub_nonneg.mpr hx)]
    have hf : |value m' e' - x| = x - value m' e' := by
      rw [abs_sub_comm, abs_of_nonneg (by linarith)]
    rw [hl] at hg
    rw [hf]
    exact ⟨by linarith, fun heq => by linarith⟩

end Rounds

theorem nearest_normalize {x : ℚ} {m : Nat} {e : Int} (h : Rounds x m e)
    (hf : (normalize m e).isFinite = true) : (normalize m e).Nearest x := by
  unfold normalize at hf ⊢
  by_cases hm : m = 2 ^ 53
  · simp only [if_pos hm] at hf ⊢
    split at hf
    · cases hf
    · next hg =>
      rw [if_neg hg]
      refine ⟨_, _, rfl, ⟨by decide, by have := h.least_le; omega, by omega, by simp⟩, ?_⟩
      intro m' e' hm' he'
      obtain ⟨hl, -⟩ := h.nearest hm' he'
      rw [hm, ← value_carry] at hl
      exact ⟨hl, fun _ => .inr (by decide)⟩
  · simp only [if_neg hm] at hf ⊢
    split at hf
    · cases hf
    · next hg =>
      rw [if_neg hg]
      have hl := h.mantissa_le
      exact ⟨m, e, rfl, ⟨by omega, h.least_le, by omega, h.least_of_lt⟩,
        fun m' e' hm' he' => h.nearest hm' he'⟩

/-- The quotient of natural numbers is rounded to the nearest number, a half to the even one, unless
it is too large to be finite. -/
theorem ofRatio_nearest (num : Nat) {den : Nat} (hd : 0 < den)
    (hf : (ofRatio num den).isFinite = true) : (ofRatio num den).Nearest (num / den) := by
  rcases Nat.eq_zero_or_pos num with rfl | hn
  · have hc : Canonical 0 leastExponent := ⟨by decide, by decide, by decide, fun _ => rfl⟩
    refine ⟨0, leastExponent, by simp [ofRatio, zero], hc, ?_⟩
    intro m' e' _ _
    simp only [value, Nat.cast_zero, zero_mul, zero_div, sub_zero, abs_zero]
    exact ⟨abs_nonneg _, fun _ => .inr (by decide)⟩
  · obtain ⟨m, he, hr⟩ := ofRatio_rounds hn hd
    rw [he] at hf ⊢
    exact nearest_normalize hr hf

/-- Quotients below `2 ^ 64` are far from too large. -/
theorem isFinite_ofRatio {num den : Nat} (hd : 0 < den) (h : (num : ℚ) / den < 2 ^ 64) :
    (ofRatio num den).isFinite = true := by
  rcases Nat.eq_zero_or_pos num with rfl | hn
  · simp [ofRatio, zero, isFinite]
  · obtain ⟨m, he, -⟩ := ofRatio_rounds hn hd
    have hb : (2 : ℚ) ^ floorLog2 num den < 2 ^ (64 : Int) :=
      (floorLog2_spec hn hd).1.trans_lt (by exact_mod_cast h)
    have he' := (zpow_lt_zpow_iff_right₀ one_lt_two).mp hb
    rw [he, normalize]
    simp only [greatestExponent, leastExponent]
    split <;> rw [if_neg (by omega)] <;> rfl

def Representable (x : ℚ) : Prop := ∃ m e, m < 2 ^ 53 ∧ leastExponent ≤ e ∧ value m e = x

theorem value_of_nearest {m : Nat} {e : Int} {x : ℚ} (hb : (finite false m e).Nearest x)
    (hx : Representable x) : value m e = x := by
  obtain ⟨m', e', hm', he', rfl⟩ := hx
  obtain ⟨_, _, hf, -, hn⟩ := hb
  obtain ⟨-, rfl, rfl⟩ := finite.inj hf
  have hl := (hn m' e' hm' he').1
  rw [sub_self, abs_zero] at hl
  exact sub_eq_zero.mp (abs_nonpos_iff.mp hl)

/-- Natural numbers up to `2 ^ 53` are numbers of their own. -/
theorem representable_natCast {n : Nat} (h : n ≤ 2 ^ 53) : Representable n := by
  rcases h.lt_or_eq with h | rfl
  · exact ⟨n, 0, h, by decide, by simp [value]⟩
  · exact ⟨2 ^ 52, 1, by decide, by decide, by norm_num [value]⟩

theorem isFinite_ofNat {n : Nat} (h : n ≤ greatestCount) : (ofNat n).isFinite = true := by
  have hc : (n : ℚ) < (2 ^ 64 : Nat) := by
    exact_mod_cast (by unfold greatestCount at h; omega : n < 2 ^ 64)
  apply isFinite_ofRatio Nat.one_pos
  rw [Nat.cast_one, div_one]
  exact_mod_cast hc

theorem ofNat_nearest {n : Nat} (h : n ≤ greatestCount) : (ofNat n).Nearest n := by
  have hn := ofRatio_nearest n Nat.one_pos (isFinite_ofNat h)
  rwa [Nat.cast_one, div_one] at hn

theorem truncate_le (x : Binary64) : x.truncate ≤ greatestCount := by
  unfold truncate
  split
  · exact Nat.min_le_right _ _
  · exact Nat.zero_le _

theorem truncate_finite (m : Nat) (e : Int) :
    truncate (finite false m e) = min ⌊value m e⌋₊ greatestCount := by
  rw [truncate, value, two_zpow_eq, ← mul_div_assoc]
  congr 1
  rw [← Nat.floor_div_eq_div (K := ℚ)]
  push_cast
  rfl

theorem truncate_of_nearest {b : Binary64} {n : Nat} (hb : b.Nearest n) (h : n ≤ 2 ^ 53) :
    b.truncate = n := by
  obtain ⟨m, e, rfl, -⟩ := id hb
  rw [truncate_finite, value_of_nearest hb (representable_natCast h), Nat.floor_natCast,
    Nat.min_eq_left]
  exact h.trans (by decide)

example : (ofNat (2 ^ 53 + 1)).truncate = 2 ^ 53 := by decide

end Binary64
end InstanceCatalog
