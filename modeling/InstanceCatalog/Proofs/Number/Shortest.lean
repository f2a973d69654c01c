import InstanceCatalog.Number.Shortest
import InstanceCatalog.Proofs.Number.Rounding
import InstanceCatalog.Proofs.Text.Decimal

namespace InstanceCatalog

theorem roundDiv_mul_right (num den : Nat) {k : Nat} (hk : 0 < k) :
    roundDiv (num * k) (den * k) = roundDiv num den := by
  have hm : 2 * (num * k % (den * k)) = 2 * (num % den) * k := by
    rw [Nat.mul_mod_mul_right, Nat.mul_assoc]
  simp only [roundDiv, Nat.mul_div_mul_right _ _ hk, hm, Nat.mul_lt_mul_right hk]

theorem roundDiv_congr {num den num' den' : Nat} (hd : 0 < den) (hd' : 0 < den')
    (h : num * den' = num' * den) : roundDiv num den = roundDiv num' den' := by
  calc roundDiv num den = roundDiv (num * den') (den * den') := (roundDiv_mul_right _ _ hd').symm
    _ = roundDiv (num' * den) (den' * den) := by rw [h, Nat.mul_comm den]
    _ = roundDiv num' den' := roundDiv_mul_right _ _ hd

theorem floorLog2_congr {num den num' den' : Nat} (hn : 0 < num) (hd : 0 < den) (hn' : 0 < num')
    (hd' : 0 < den') (h : (num : ℚ) / den = num' / den') :
    floorLog2 num den = floorLog2 num' den' := by
  obtain ⟨hl, hu⟩ := floorLog2_spec hn hd
  obtain ⟨hl', hu'⟩ := floorLog2_spec hn' hd'
  rw [h] at hl hu
  have h1 := (zpow_lt_zpow_iff_right₀ one_lt_two).mp (hl.trans_lt hu')
  have h2 := (zpow_lt_zpow_iff_right₀ one_lt_two).mp (hl'.trans_lt hu)
  omega

namespace Binary64

theorem ofRatio_congr {num den num' den' : Nat} (hd : 0 < den) (hd' : 0 < den')
    (h : (num : ℚ) / den = num' / den') : ofRatio num den = ofRatio num' den' := by
  have hc : num * den' = num' * den := by
    rw [div_eq_div_iff (by positivity) (by positivity)] at h
    exact_mod_cast h
  rcases Nat.eq_zero_or_pos num with rfl | hn
  · have hz : num' = 0 := by
      rw [Nat.zero_mul, eq_comm, Nat.mul_eq_zero] at hc
      exact hc.resolve_right hd.ne'
    rw [ofRatio, ofRatio, if_pos rfl, if_pos hz]
  · have hn' : 0 < num' := by
      have hp : 0 < num' * den := hc ▸ Nat.mul_pos hn hd'
      exact Nat.pos_of_mul_pos_right hp
    have hs : ∀ e : Int, roundDiv (num * 2 ^ (-e).toNat) (den * 2 ^ e.toNat) =
        roundDiv (num' * 2 ^ (-e).toNat) (den' * 2 ^ e.toNat) := fun e =>
      roundDiv_congr (by positivity) (by positivity) (by
        rw [Nat.mul_mul_mul_comm, hc, Nat.mul_mul_mul_comm])
    simp only [ofRatio, if_neg hn.ne', if_neg hn'.ne', floorLog2_congr hn hd hn' hd' h, hs]

variable {m m' : Nat} {e e' : Int}

theorem value_pos (hm : 0 < m) (e : Int) : 0 < value m e :=
  mul_pos (Nat.cast_pos.mpr hm) (by positivity)

theorem pos_of_value_pos (h : 0 < value m e) : 0 < m :=
  Nat.cast_pos.mp (pos_of_mul_pos_left h (by positivity))

theorem pos_of_div_pos {num den : Nat} (h : (0 : ℚ) < num / den) : 0 < num := by
  refine Nat.pos_of_ne_zero fun hz => ?_
  rw [hz, Nat.cast_zero, zero_div] at h
  exact h.false

/-- Above the least exponent a mantissa has all its bits. -/
theorem full_of_lt (hl : m < 2 ^ 52 → e = leastExponent) (he : leastExponent < e) :
    (2 ^ 52 : ℚ) ≤ m := by
  have hm : 2 ^ 52 ≤ m := not_lt.mp fun hs => he.ne' (hl hs)
  exact_mod_cast hm

/-- A number has one mantissa and exponent. -/
theorem value_inj (hm : m < 2 ^ 53) (hm' : m' < 2 ^ 53) (he : leastExponent ≤ e)
    (he' : leastExponent ≤ e') (hl : m < 2 ^ 52 → e = leastExponent)
    (hl' : m' < 2 ^ 52 → e' = leastExponent) (h : value m e = value m' e') : m = m' ∧ e = e' := by
  have hf : ∀ {m m' : Nat} {e e' : Int}, m < 2 ^ 53 → leastExponent ≤ e →
      (m' < 2 ^ 52 → e' = leastExponent) → e < e' → value m e < value m' e' := by
    intro m m' e e' hm he hl' hlt
    have hg : ((2 ^ 52 : Nat) : ℚ) ≤ m' := by exact_mod_cast full_of_lt hl' (he.trans_lt hlt)
    exact (value_lt_of_lt hm hlt).trans_le (mul_le_mul_of_nonneg_right hg (by positivity))
  rcases lt_trichotomy e e' with hlt | rfl | hgt
  · exact absurd h (hf hm he hl' hlt).ne
  · have hp : (2 : ℚ) ^ e ≠ 0 := by positivity
    exact ⟨by exact_mod_cast mul_right_cancel₀ hp h, rfl⟩
  · exact absurd h (hf hm' he' hl hgt).ne'

/-- Different numbers differ by one part in `2 ^ 53` at least. -/
theorem Canonical.separated (h : Canonical m e) (hm' : m' < 2 ^ 53)
    (he' : leastExponent ≤ e') (hne : value m' e' ≠ value m e) :
    value m e / 2 ^ 53 ≤ |value m' e' - value m e| := by
  have hp : (0 : ℚ) < 2 ^ e := by positivity
  have hm : (m : ℚ) < 2 ^ 53 := by exact_mod_cast h.mantissa_lt
  have hv : value m e = m * 2 ^ e := rfl
  by_cases hle : e ≤ e'
  · rw [value_of_le m' hle] at hne ⊢
    have hk : m' * 2 ^ (e' - e).toNat ≠ m := fun hk => hne (by rw [hk])
    generalize m' * 2 ^ (e' - e).toNat = k at hk ⊢
    have hr := one_le_abs_sub hk
    rw [abs_value_sub, hv, mul_div_cancel_right₀ _ hp.ne']
    calc (m : ℚ) * 2 ^ e / 2 ^ 53 = m / 2 ^ 53 * 2 ^ e := by ring
      _ ≤ |(k : ℚ) - m| * 2 ^ e := by
          refine mul_le_mul_of_nonneg_right (le_trans ?_ hr) hp.le
          exact (div_le_one (by positivity)).mpr hm.le
  · -- the other number is a full mantissa of the next smaller exponent at most
    have hfull := full_of_lt h.least_of_lt (by omega : leastExponent < e)
    have hz : (2 : ℚ) ^ e' ≤ 2 ^ (e - 1) := zpow_le_zpow_right₀ one_le_two (by omega)
    rw [zpow_sub_one₀ two_ne_zero e] at hz
    have hm1 : (m' : ℚ) ≤ 2 ^ 53 - 1 := by
      have : (m' : ℚ) + 1 ≤ 2 ^ 53 := by exact_mod_cast hm'
      linarith
    have hv' : value m' e' ≤ (2 ^ 53 - 1) * (2 ^ e * 2⁻¹) :=
      mul_le_mul hm1 hz (by positivity) (by norm_num)
    have hg : 2 ^ 52 * 2 ^ e ≤ (m : ℚ) * 2 ^ e := mul_le_mul_of_nonneg_right hfull hp.le
    rw [abs_sub_comm, abs_of_nonneg (by linarith)]
    linarith

theorem Canonical.eq_of_near (h : Canonical m e) (hm' : m' < 2 ^ 53) (he' : leastExponent ≤ e')
    (hl' : m' < 2 ^ 52 → e' = leastExponent)
    (hn : |value m' e' - value m e| < value m e / 2 ^ 53) : m' = m ∧ e' = e := by
  refine value_inj hm' h.mantissa_lt he' h.least_le hl' h.least_of_lt ?_
  by_contra hne
  exact absurd (h.separated hm' he' hne) hn.not_ge

theorem Rounds.normalize_eq {x : ℚ} (hr : Rounds x m' e') (h : Canonical m e)
    (hn : |value m' e' - value m e| < value m e / 2 ^ 53) : normalize m' e' = finite false m e := by
  unfold normalize
  by_cases hc : m' = 2 ^ 53
  · rw [hc, ← value_carry] at hn
    have hl := hr.least_le
    obtain ⟨rfl, rfl⟩ := h.eq_of_near (by decide) (by omega) (by simp) hn
    simp only [if_pos hc]
    rw [if_neg (not_lt.mpr h.le_greatest)]
  · have hl := hr.mantissa_le
    obtain ⟨rfl, rfl⟩ := h.eq_of_near (by omega) hr.least_le hr.least_of_lt hn
    simp only [if_neg hc]
    rw [if_neg (not_lt.mpr h.le_greatest)]

/-- Every quotient within one part in `2 ^ 54` of a number is rounded to it. -/
theorem ofRatio_eq_of_near {num den : Nat} (hd : 0 < den) (h : Canonical m e)
    (hn : |value m e - num / den| < value m e / 2 ^ 54) :
    ofRatio num den = finite false m e := by
  have hv : 0 ≤ value m e := mul_nonneg (Nat.cast_nonneg m) (by positivity)
  obtain ⟨hl, hu⟩ := abs_lt.mp hn
  have hnum : 0 < num := pos_of_div_pos (by linarith : (0 : ℚ) < num / den)
  obtain ⟨m', hm', hr⟩ := ofRatio_rounds hnum hd
  rw [hm']
  generalize max (floorLog2 num den - 52) leastExponent = e' at hr ⊢
  refine hr.normalize_eq h ?_
  -- what the quotient is rounded to is no farther from it than the number
  have hb := (hr.nearest h.mantissa_lt h.least_le).1
  have ht := abs_sub_le (value m' e') (num / den) (value m e)
  rw [abs_sub_comm (num / den : ℚ) (value m e)] at ht
  linarith

theorem decimalLength_pos (n : Nat) : 0 < decimalLength n := Nat.length_toDigits_pos

theorem lt_pow_decimalLength (n : Nat) : n < 10 ^ decimalLength n :=
  (Nat.length_toDigits_le_iff (by decide) (decimalLength_pos n)).mp le_rfl

theorem pow_decimalLength_le {n : Nat} (h : 0 < n) : 10 ^ (decimalLength n - 1) ≤ n := by
  by_contra hlt
  rcases Nat.eq_zero_or_pos (decimalLength n - 1) with hz | hp
  · rw [hz, pow_zero] at hlt
    omega
  · have hl := (Nat.length_toDigits_le_iff (by decide) hp).mpr (not_le.mp hlt)
    have hd := decimalLength_pos n
    unfold decimalLength at hl hd hp
    omega

/-- A positive quotient has its first digit at the place below its magnitude. -/
theorem pow_decimalMagnitude_le {num den : Nat} (hn : 0 < num) (hd : 0 < den) :
    (10 : ℚ) ^ (decimalMagnitude num den - 1) ≤ num / den := by
  have hd' : (0 : ℚ) < den := by exact_mod_cast hd
  unfold decimalMagnitude
  split
  · next hle =>
    have hl := pow_decimalLength_le (Nat.div_pos hle hd)
    have hp := decimalLength_pos (num / den)
    have hz : (decimalLength (num / den) : Int) - 1 = (decimalLength (num / den) - 1 : Nat) := by
      omega
    rw [hz, zpow_natCast, le_div_iff₀ hd']
    exact_mod_cast (Nat.mul_le_mul_right den hl).trans (Nat.div_mul_le_self num den)
  · have hl := lt_pow_decimalLength ((den - 1) / num)
    rw [Nat.div_lt_iff_lt_mul hn] at hl
    have hz : (1 : Int) - decimalLength ((den - 1) / num) - 1 =
        -(decimalLength ((den - 1) / num) : Int) := by omega
    rw [hz, zpow_neg, zpow_natCast, inv_eq_one_div, div_le_div_iff₀ (by positivity) hd']
    exact_mod_cast (by rw [Nat.mul_comm num]; omega :
      1 * den ≤ num * 10 ^ decimalLength ((den - 1) / num))

theorem cast_ofScaled (digits : Nat) (scale : Int) :
    ((digits * 10 ^ scale.toNat : Nat) : ℚ) / (10 ^ (-scale).toNat : Nat) = digits * 10 ^ scale := by
  rw [zpow_eq_div (by norm_num) scale]
  push_cast
  rw [mul_div_assoc]

theorem ofScaled_congr {digits digits' : Nat} {scale scale' : Int}
    (h : (digits : ℚ) * 10 ^ scale = digits' * 10 ^ scale') :
    ofScaled digits scale = ofScaled digits' scale' :=
  ofRatio_congr (by positivity) (by positivity) (by rw [cast_ofScaled, cast_ofScaled, h])

theorem value_normalize (h : normalize m' e' = finite false m e) :
    value m e = value m' e' := by
  unfold normalize at h
  by_cases hc : m' = 2 ^ 53
  · simp only [if_pos hc] at h
    split at h
    · cases h
    · obtain ⟨-, rfl, rfl⟩ := finite.inj h
      rw [hc, ← value_carry]
  · simp only [if_neg hc] at h
    split at h
    · cases h
    · obtain ⟨-, rfl, rfl⟩ := finite.inj h
      rfl

/-- A quotient differs from the positive number it is rounded to by a factor of two at most. -/
theorem ofRatio_bounds {num den : Nat} (hn : 0 < num) (hd : 0 < den) (hm : 0 < m)
    (h : ofRatio num den = finite false m e) :
    value m e / 2 ≤ num / den ∧ (num : ℚ) / den ≤ 2 * value m e := by
  obtain ⟨m', hm', hr⟩ := ofRatio_rounds hn hd
  generalize max (floorLog2 num den - 52) leastExponent = e' at hm' hr
  have hv := value_normalize (hm' ▸ h)
  have hp : (0 : ℚ) < 2 ^ e' := by positivity
  have hone : (1 : ℚ) ≤ m' := Nat.one_le_cast.mpr (pos_of_value_pos (hv ▸ value_pos hm e))
  have hu : (2 : ℚ) ^ e' ≤ value m' e' := le_mul_of_one_le_left hp.le hone
  have ha : |value m' e' - num / den| ≤ 1 / 2 * 2 ^ e' := by
    rw [abs_value_sub]
    exact mul_le_mul_of_nonneg_right hr.near hp.le
  obtain ⟨hl, hg⟩ := abs_le.mp ha
  rw [hv]
  constructor <;> linarith

theorem Canonical.bounds (h : Canonical m e) (hm : 0 < m) :
    (2 : ℚ) ^ leastExponent ≤ value m e ∧ value m e < 2 ^ (1024 : Int) := by
  have hp : (0 : ℚ) < 2 ^ e := by positivity
  have hone : (1 : ℚ) ≤ m := Nat.one_le_cast.mpr hm
  have hlt : (m : ℚ) < 2 ^ 53 := by exact_mod_cast h.mantissa_lt
  constructor
  · calc (2 : ℚ) ^ leastExponent ≤ 2 ^ e := zpow_le_zpow_right₀ one_le_two h.least_le
      _ ≤ value m e := le_mul_of_one_le_left hp.le hone
  · calc value m e < 2 ^ 53 * 2 ^ e := mul_lt_mul_of_pos_right hlt hp
      _ ≤ 2 ^ 53 * 2 ^ greatestExponent := by
          refine mul_le_mul_of_nonneg_left ?_ (by positivity)
          exact zpow_le_zpow_right₀ one_le_two h.le_greatest
      _ = 2 ^ (1024 : Int) := by
          rw [← zpow_natCast, ← zpow_add₀ two_ne_zero]
          rfl

theorem two_zpow_lt_ten_zpow : (2 : ℚ) ^ (1200 : Int) < 10 ^ (400 : Int) := by
  have hz : (1200 : Int) = 3 * 400 := rfl
  have h8 : ((2 : ℚ) ^ (3 : Int)) = 8 := by norm_num
  rw [hz, zpow_mul, h8]
  exact zpow_lt_zpow_left₀ (by norm_num) (by norm_num) (by norm_num)

/-- Where the first digit of a decimal stands. -/
theorem scaled_bounds {digits : Nat} (hd : 0 < digits) (scale : Int) :
    (10 : ℚ) ^ (decimalLength digits + scale - 1) ≤ digits * 10 ^ scale ∧
      (digits : ℚ) * 10 ^ scale < 10 ^ (decimalLength digits + scale) := by
  have hp : (0 : ℚ) < 10 ^ scale := by positivity
  have h10 : (10 : ℚ) ≠ 0 := by norm_num
  have hl : (10 : ℚ) ^ (decimalLength digits - 1) ≤ digits := by
    exact_mod_cast pow_decimalLength_le hd
  have hu : (digits : ℚ) < 10 ^ decimalLength digits := by
    exact_mod_cast lt_pow_decimalLength digits
  have hz : (decimalLength digits : Int) + scale - 1 =
      (decimalLength digits - 1 : Nat) + scale := by
    have := decimalLength_pos digits
    omega
  rw [hz, zpow_add₀ h10, zpow_add₀ h10, zpow_natCast, zpow_natCast]
  exact ⟨mul_le_mul_of_nonneg_right hl hp.le, mul_lt_mul_of_pos_right hu hp⟩

/-- No decimal that is rounded to a finite number lies far outside the range. -/
theorem place_bounds (h : Canonical m e) (hm : 0 < m) {digits : Nat} {scale : Int}
    (hs : ofScaled digits scale = finite false m e) :
    0 < digits ∧ -400 ≤ decimalLength digits + scale ∧ decimalLength digits + scale ≤ 400 := by
  have hd : 0 < digits := by
    refine Nat.pos_of_ne_zero fun hz => ?_
    rw [hz, ofScaled, Nat.zero_mul, ofRatio, if_pos rfl] at hs
    have := (finite.inj hs).2.1
    omega
  obtain ⟨hl, hu⟩ := ofRatio_bounds (by positivity) (by positivity) hm hs
  rw [cast_ofScaled] at hl hu
  obtain ⟨hb, ht⟩ := h.bounds hm
  obtain ⟨hlow, hhigh⟩ := scaled_bounds hd scale
  -- both ends of the range are far inside `2 ^ 1200` and its inverse
  refine ⟨hd, ?_, ?_⟩
  · have hc : (10 : ℚ) ^ (-400 : Int) < 10 ^ (decimalLength digits + scale) := by
      calc (10 : ℚ) ^ (-400 : Int) = (10 ^ (400 : Int))⁻¹ := zpow_neg _ _
        _ < (2 ^ (1200 : Int))⁻¹ := inv_strictAnti₀ (by positivity) two_zpow_lt_ten_zpow
        _ = 2 ^ (-1200 : Int) := (zpow_neg _ _).symm
        _ ≤ 2 ^ (leastExponent - 1) := zpow_le_zpow_right₀ one_le_two (by decide)
        _ = 2 ^ leastExponent / 2 := zpow_sub_one₀ two_ne_zero _
        _ ≤ value m e / 2 := div_le_div_of_nonneg_right hb (by norm_num)
        _ ≤ digits * 10 ^ scale := hl
        _ < _ := hhigh
    exact ((zpow_lt_zpow_iff_right₀ (by norm_num)).mp hc).le
  · have hc : (10 : ℚ) ^ (decimalLength digits + scale - 1) < 10 ^ (400 : Int) := by
      calc _ ≤ (digits : ℚ) * 10 ^ scale := hlow
        _ ≤ 2 * value m e := hu
        _ ≤ 2 * 2 ^ (1024 : Int) := mul_le_mul_of_nonneg_left ht.le (by norm_num)
        _ = 2 ^ (1 + 1024 : Int) := (zpow_one_add₀ two_ne_zero 1024).symm
        _ < 2 ^ (1200 : Int) := zpow_lt_zpow_right₀ one_lt_two (by decide)
        _ < 10 ^ (400 : Int) := two_zpow_lt_ten_zpow
    have := (zpow_lt_zpow_iff_right₀ (by norm_num)).mp hc
    omega

theorem ofScaled_of_neighbour? {x : Binary64} {num den digits : Nat} {scale : Int}
    (h : neighbour? x num den scale = some digits) : ofScaled digits scale = x := by
  unfold neighbour? at h
  simp only at h
  grind

theorem roundDiv_eq_or (num den : Nat) :
    roundDiv num den = num / den ∨ roundDiv num den = num / den + 1 := by
  unfold roundDiv
  simp only
  have hm := Nat.mod_two_eq_zero_or_one (num / den)
  grind

theorem neighbour?_isSome {x : Binary64} {num den : Nat} {scale : Int}
    (h : ofScaled (roundDiv (num * 10 ^ (-scale).toNat) (den * 10 ^ scale.toNat)) scale = x) :
    (neighbour? x num den scale).isSome = true := by
  unfold neighbour?
  simp only
  rcases roundDiv_eq_or (num * 10 ^ (-scale).toNat) (den * 10 ^ scale.toNat) with hr | hr <;>
    rw [hr] at h <;> grind

/-- The search ends at a decimal that reads back if it would end at so many digits. -/
theorem ofScaled_shortestFrom {x : Binary64} {num den : Nat} {magnitude : Int} (tries : Nat)
    {count : Nat} (h : (neighbour? x num den (magnitude - (count + tries : Nat))).isSome = true) :
    ofScaled (shortestFrom x num den magnitude (tries + 1) count).1
      (shortestFrom x num den magnitude (tries + 1) count).2 = x := by
  induction tries generalizing count with
  | zero =>
    obtain ⟨digits, hd⟩ := Option.isSome_iff_exists.mp h
    rw [Nat.add_zero] at hd
    rw [shortestFrom]
    simp only [hd]
    exact ofScaled_of_neighbour? hd
  | succ tries ih =>
    rw [shortestFrom]
    split
    · next hd => exact ofScaled_of_neighbour? hd
    · exact ih (by rwa [Nat.add_right_comm, Nat.add_assoc])

theorem cast_value (m : Nat) (e : Int) :
    ((m * 2 ^ e.toNat : Nat) : ℚ) / (2 ^ (-e).toNat : Nat) = value m e := by
  rw [value, two_zpow_eq]
  push_cast
  rw [mul_div_assoc]

/-- Of the decimals with 17 digits, the nearest to a number reads back as it. -/
theorem ofScaled_seventeen (h : Canonical m e) (hm : 0 < m) {num den : Nat} (hd : 0 < den)
    (hv : (num : ℚ) / den = value m e) {scale : Int} (hs : scale = decimalMagnitude num den - 17) :
    ofScaled (roundDiv (num * 10 ^ (-scale).toNat) (den * 10 ^ scale.toNat)) scale =
      finite false m e := by
  have hp : (0 : ℚ) < 10 ^ scale := by positivity
  have hpos := value_pos hm e
  have hnum : 0 < num := pos_of_div_pos (hv ▸ hpos)
  -- a unit of the last of 17 digits is one part in `10 ^ 16` of the number at most
  have hmag := pow_decimalMagnitude_le hnum hd
  have hz : decimalMagnitude num den - 1 = scale + 16 := by omega
  rw [hv, hz, zpow_add₀ (by norm_num)] at hmag
  have hq : ((num * 10 ^ (-scale).toNat : Nat) : ℚ) / (den * 10 ^ scale.toNat : Nat) =
      value m e / 10 ^ scale := by
    rw [← hv, zpow_eq_div (by norm_num) scale]
    push_cast
    rw [div_div_div_eq, mul_comm (den : ℚ)]
  have hr := (roundDiv_near (num * 10 ^ (-scale).toNat)
    (by positivity : 0 < den * 10 ^ scale.toNat)).1
  rw [hq] at hr
  generalize roundDiv (num * 10 ^ (-scale).toNat) (den * 10 ^ scale.toNat) = digits at hr ⊢
  refine ofRatio_eq_of_near (by positivity) h ?_
  rw [cast_ofScaled]
  have hd : value m e - digits * 10 ^ scale = -((digits - value m e / 10 ^ scale) * 10 ^ scale) := by
    field_simp
    ring
  rw [hd, abs_neg, abs_mul, abs_of_pos hp]
  calc |(digits : ℚ) - value m e / 10 ^ scale| * 10 ^ scale ≤ 1 / 2 * 10 ^ scale :=
        mul_le_mul_of_nonneg_right hr hp.le
    _ ≤ 1 / 2 * (value m e / 10 ^ 16) := by
        refine mul_le_mul_of_nonneg_left ?_ (by norm_num)
        rw [le_div_iff₀ (by positivity)]
        exact_mod_cast hmag
    _ < value m e / 2 ^ 54 := by linarith

/-- The shortest decimal of a number reads back as the number. -/
theorem ofScaled_shortest (h : Canonical m e) (hm : 0 < m) :
    ofScaled (shortest m e).1 (shortest m e).2 = finite false m e := by
  unfold shortest
  refine ofScaled_shortestFrom 16 (neighbour?_isSome ?_)
  exact ofScaled_seventeen h hm (by positivity) (cast_value m e) (by push_cast; omega)

end Binary64
end InstanceCatalog
