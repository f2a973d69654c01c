import InstanceCatalog.Number.Numeral
import InstanceCatalog.Proofs.Number.Amount
import InstanceCatalog.Proofs.Number.Shortest
import InstanceCatalog.Proofs.Text.Trim
import InstanceCatalog.Proofs.Text.Window

namespace InstanceCatalog

namespace Decimal

def value (d : Decimal) : ℚ := d.digits * 10 ^ (-(d.places : Int))

end Decimal

namespace Binary64

theorem ofDecimal_eq_ofScaled (d : Decimal) : ofDecimal d = ofScaled d.digits (-d.places) := by
  simp [ofDecimal, ofScaled]

/-- The parts around the point of a number with all its places. -/
theorem positional_eq {digits : Text} (hd : ∀ c ∈ digits, c.isDigit = true) (hn : digits ≠ [])
    (position : Int) : ∃ whole fraction, positional digits position = whole ++ '.' :: fraction ∧
      whole ≠ [] ∧ (∀ c ∈ whole, c.isDigit = true) ∧ (∀ c ∈ fraction, c.isDigit = true) ∧
      (Decimal.ofParts whole fraction).value =
        Text.decimalValue digits * 10 ^ (position - digits.length) := by
  have hz : ∀ n, ∀ c ∈ List.replicate n '0', c.isDigit = true := fun n c hc => by
    rw [List.eq_of_mem_replicate hc]
    decide
  have ht : (10 : ℚ) ≠ 0 := by norm_num
  unfold positional Decimal.value Decimal.ofParts
  simp only
  split
  · next h =>
    refine ⟨['0'], List.replicate (-position).toNat '0' ++ digits, rfl, by simp, by simp, ?_, ?_⟩
    · exact fun c hc => (List.mem_append.mp hc).elim (hz _ c) (hd c)
    · have hw : ['0'] ++ (List.replicate (-position).toNat '0' ++ digits) =
          List.replicate ((-position).toNat + 1) '0' ++ digits := rfl
      rw [hw, Text.decimalValue_append, Text.decimalValue_replicate_zero, Nat.zero_mul, Nat.zero_add,
        List.length_append, List.length_replicate]
      congr 2
      omega
  · next h =>
    split
    · next hl =>
      refine ⟨digits ++ List.replicate (position.toNat - digits.length) '0', ['0'], by simp,
        by simp [hn], ?_, by simp, ?_⟩
      · exact fun c hc => (List.mem_append.mp hc).elim (hd c) (hz _ c)
      · have hp : position - digits.length = ((position.toNat - digits.length : Nat) : Int) := by
          omega
        rw [List.append_assoc, ← List.replicate_succ', Text.decimalValue_append,
          Text.decimalValue_replicate_zero, List.length_replicate, hp, zpow_natCast,
          List.length_singleton, Nat.cast_one, zpow_neg_one, pow_succ]
        push_cast
        field_simp
        ring
    · next hl =>
      refine ⟨digits.take position.toNat, digits.drop position.toNat, rfl, ?_, ?_, ?_, ?_⟩
      · rw [ne_eq, List.take_eq_nil_iff]
        rintro (hz | hz)
        · omega
        · exact hn hz
      · exact fun c hc => hd c (List.mem_of_mem_take hc)
      · exact fun c hc => hd c (List.mem_of_mem_drop hc)
      · rw [List.take_append_drop, List.length_drop]
        congr 2
        omega

theorem readExponent?_digits {digits : Text} (hn : digits ≠ [])
    (hd : ∀ c ∈ digits, c.isDigit = true) :
    readExponent? digits = some (Text.decimalValue digits : Int) ∧
      readExponent? ('-' :: digits) = some (-(Text.decimalValue digits : Int)) := by
  have ha : (digits.isEmpty || !digits.all Char.isDigit) = false := by
    simp [hn, List.all_eq_true.mpr hd]
  refine ⟨?_, ?_⟩
  · unfold readExponent?
    simp only
    split
    · exact absurd (hd '-' List.mem_cons_self) (by decide)
    · exact absurd (hd '+' List.mem_cons_self) (by decide)
    · rw [ha]
      rfl
  · simp only [readExponent?, ha]
    rfl

/-- The digits of an exponent with a sign before them if it is negative. -/
theorem readExponent?_signed (k : Int) : ∃ exponent,
    (if k < 0 then ['-'] else []) ++ Text.ofNat k.natAbs = exponent ∧
      readExponent? exponent = some k ∧ ∀ x ∈ exponent, x.isDigit = true ∨ x = '-' := by
  obtain ⟨hp, hm⟩ := readExponent?_digits (Text.ofNat_ne_nil k.natAbs)
    fun _ => Text.isDigit_of_mem_ofNat
  rw [Text.decimalValue_ofNat] at hp hm
  split
  · refine ⟨'-' :: Text.ofNat k.natAbs, rfl, ?_, ?_⟩
    · rw [hm]
      congr 1
      omega
    · exact fun x hx => (List.mem_cons.mp hx).symm.imp Text.isDigit_of_mem_ofNat id
  · refine ⟨Text.ofNat k.natAbs, rfl, ?_, fun x hx => .inl (Text.isDigit_of_mem_ofNat hx)⟩
    rw [hp]
    congr 1
    omega

/-- The parts of a number in scientific notation, around its `e`. -/
theorem scientific_eq {digits : Text} (hd : ∀ c ∈ digits, c.isDigit = true) (hn : digits ≠ [])
    (position : Int) : ∃ c rest exponent,
      scientific digits position = c :: rest ++ 'e' :: exponent ∧
      c.isDigit = true ∧ (∀ x ∈ rest, x.isDigit = true ∨ x = '.') ∧
      Decimal.read? (c :: rest) = some ⟨Text.decimalValue digits, digits.length - 1⟩ ∧
      (∀ x ∈ exponent, x.isDigit = true ∨ x = '-') ∧
      readExponent? exponent = some (position - 1) := by
  obtain ⟨exponent, he, hr, hx⟩ := readExponent?_signed (position - 1)
  obtain ⟨c, rest, rfl⟩ := List.exists_cons_of_ne_nil hn
  obtain ⟨hc, hd'⟩ := List.forall_mem_cons.mp hd
  cases rest with
  | nil =>
    refine ⟨c, [], exponent, ?_, hc, by simp, Decimal.read?_of_digits hn hd, hx, hr⟩
    rw [← he]
    simp [scientific]
  | cons x rest =>
    refine ⟨c, '.' :: x :: rest, exponent, ?_, hc, ?_, ?_, hx, hr⟩
    · rw [← he]
      simp [scientific]
    · intro y hy
      exact (List.mem_cons.mp hy).symm.imp (hd' y) id
    · have hw : ∀ y ∈ [c], y.isDigit = true := by simp [hc]
      exact Decimal.read?_of_point (List.cons_ne_nil c []) hw hd'

theorem readMagnitude?_of_digit {c : Char} (rest : Text) (hc : c.isDigit = true) :
    readMagnitude? (c :: rest) =
      match (c :: rest).dropWhile (fun c => !(decide (c = 'e') || decide (c = 'E'))) with
      | [] => (Decimal.read? (c :: rest)).map ofDecimal
      | _ :: exponent => do
        let d ← Decimal.read?
          ((c :: rest).takeWhile (fun c => !(decide (c = 'e') || decide (c = 'E'))))
        let e ← readExponent? exponent
        return ofDecimalScaled d e := by
  have hd : 48 ≤ c.toNat ∧ c.toNat ≤ 57 := Char.isDigit_iff_toNat.mp hc
  have hl : c.toLower = c := Text.toLower_eq_self (by omega)
  have hw : ∀ a word, a.isDigit = false → (c :: rest).map Char.toLower ≠ a :: word := by
    rintro a word ha he
    rw [List.map_cons, hl] at he
    rw [(List.cons.inj he).1, ha] at hc
    cases hc
  have hi : ¬(((c :: rest).map Char.toLower = "inf".toList ||
      (c :: rest).map Char.toLower = "infinity".toList) = true) := by
    rw [Bool.or_eq_true, decide_eq_true_eq, decide_eq_true_eq, not_or]
    exact ⟨hw 'i' ['n', 'f'] (by decide), hw 'i' ['n', 'f', 'i', 'n', 'i', 't', 'y'] (by decide)⟩
  have hn : (c :: rest).map Char.toLower ≠ "nan".toList := hw 'n' ['a', 'n'] (by decide)
  exact (if_neg hi).trans (if_neg hn)

theorem noMark_of_digit {c : Char} (h : c.isDigit = true ∨ c = '.') :
    (!(decide (c = 'e') || decide (c = 'E'))) = true := by
  rcases h with h | rfl
  · by_cases he : c = 'e'
    · rw [he] at h
      exact absurd h (by decide)
    · by_cases hE : c = 'E'
      · rw [hE] at h
        exact absurd h (by decide)
      · simp [he, hE]
  · decide

theorem readMagnitude?_point {whole fraction : Text} (hn : whole ≠ [])
    (hw : ∀ c ∈ whole, c.isDigit = true) (hf : ∀ c ∈ fraction, c.isDigit = true) :
    readMagnitude? (whole ++ '.' :: fraction) = some (ofDecimal (.ofParts whole fraction)) := by
  have hr := Decimal.read?_of_point hn hw hf
  obtain ⟨c, rest, rfl⟩ := List.exists_cons_of_ne_nil hn
  have hm : (c :: (rest ++ '.' :: fraction)).dropWhile
      (fun c => !(decide (c = 'e') || decide (c = 'E'))) = [] := by
    refine List.dropWhile_eq_nil_iff.mpr fun x hx => noMark_of_digit ?_
    rcases List.mem_append.mp (List.cons_append ▸ hx : x ∈ c :: rest ++ '.' :: fraction) with hx | hx
    · exact .inl (hw x hx)
    · exact (List.mem_cons.mp hx).symm.imp (hf x) id
  rw [List.cons_append] at hr ⊢
  rw [readMagnitude?_of_digit _ (hw c List.mem_cons_self), hm, hr]
  rfl

theorem readMagnitude?_power {c : Char} {rest exponent : Text} {d : Decimal} {k : Int}
    (hc : c.isDigit = true) (hr : ∀ x ∈ rest, x.isDigit = true ∨ x = '.')
    (hd : Decimal.read? (c :: rest) = some d) (he : readExponent? exponent = some k) :
    readMagnitude? (c :: rest ++ 'e' :: exponent) = some (ofDecimalScaled d k) := by
  have ha : ∀ x ∈ c :: rest, (!(decide (x = 'e') || decide (x = 'E'))) = true := by
    intro x hx
    rcases List.mem_cons.mp hx with rfl | hx
    · exact noMark_of_digit (.inl hc)
    · exact noMark_of_digit (hr x hx)
  have hs : ∀ x ∈ ('e' :: exponent).head?, (!(decide (x = 'e') || decide (x = 'E'))) = false := by
    simp
  have ht := Text.takeWhile_append_of_stop ha hs
  have hw := Text.dropWhile_append_of_stop ha hs
  rw [List.cons_append] at ht hw ⊢
  rw [readMagnitude?_of_digit _ hc, hw, ht, hd]
  simp only [he]
  rfl

variable {m : Nat} {e : Int}

/-- A text without a sign that reads as a number, and what it is made of. -/
structure Denotes (s : Text) (x : Binary64) : Prop where
  reads : readMagnitude? s = some x
  first : ∃ c rest, s = c :: rest ∧ c.isDigit = true
  plain : ∀ c ∈ s, c.isDigit = true ∨ c = '.' ∨ c = 'e' ∨ c = '-'

theorem denotes_positional {digits : Text} (hd : ∀ c ∈ digits, c.isDigit = true) (hn : digits ≠ [])
    (position : Int) : Denotes (positional digits position)
      (ofScaled (Text.decimalValue digits) (position - digits.length)) := by
  obtain ⟨whole, fraction, he, hw, hwd, hfd, hv⟩ := positional_eq hd hn position
  rw [he]
  constructor
  · rw [readMagnitude?_point hw hwd hfd, ofDecimal_eq_ofScaled, ofScaled_congr hv]
  · obtain ⟨c, rest, rfl⟩ := List.exists_cons_of_ne_nil hw
    exact ⟨c, rest ++ '.' :: fraction, rfl, hwd c List.mem_cons_self⟩
  · intro c hc
    rcases List.mem_append.mp hc with hc | hc
    · exact .inl (hwd c hc)
    · rcases List.mem_cons.mp hc with rfl | hc
      · exact .inr (.inl rfl)
      · exact .inl (hfd c hc)

theorem ofDecimalScaled_eq_ofScaled {d : Decimal} {exponent : Int} (hd : 0 < d.digits)
    (hl : -400 ≤ decimalLength d.digits + (exponent - d.places))
    (hu : decimalLength d.digits + (exponent - d.places) ≤ 400) :
    ofDecimalScaled d exponent = ofScaled d.digits (exponent - d.places) := by
  unfold decimalLength at hl hu
  unfold ofDecimalScaled
  simp only
  rw [if_neg hd.ne', if_neg (by omega), if_neg (by omega)]
  rfl

theorem denotes_scientific {digits : Text} (hd : ∀ c ∈ digits, c.isDigit = true) (hn : digits ≠ [])
    {position : Int} (h : Canonical m e) (hm : 0 < m)
    (hs : ofScaled (Text.decimalValue digits) (position - digits.length) = finite false m e) :
    Denotes (scientific digits position) (finite false m e) := by
  obtain ⟨c, rest, exponent, he, hc, hr, hv, hx, hk⟩ := scientific_eq hd hn position
  have hp := List.length_pos_iff.mpr hn
  have hz : position - 1 - (digits.length - 1 : Nat) = position - digits.length := by omega
  obtain ⟨hpos, hl, hu⟩ := place_bounds h hm hs
  rw [he]
  constructor
  · rw [readMagnitude?_power hc hr hv hk, ofDecimalScaled_eq_ofScaled hpos, hz, hs]
    · rwa [hz]
    · rwa [hz]
  · exact ⟨c, rest ++ 'e' :: exponent, rfl, hc⟩
  · intro y hy
    rcases List.mem_append.mp hy with hy | hy
    · rcases List.mem_cons.mp hy with rfl | hy
      · exact .inl hc
      · exact (hr y hy).imp_right .inl
    · rcases List.mem_cons.mp hy with rfl | hy
      · exact .inr (.inr (.inl rfl))
      · exact (hx y hy).imp_right fun hm => .inr (.inr hm)

/-- Dropping the zeros at the end of a number's digits moves its last place, not its value. -/
theorem ofScaled_dropEndWhile (number : Nat) (scale : Int) :
    let digits := Text.dropEndWhile (· == '0') (Text.ofNat number)
    ofScaled (Text.decimalValue digits) ((Text.ofNat number).length + scale - digits.length) =
      ofScaled number scale := by
  intro digits
  obtain ⟨zeros, hz⟩ := Text.eq_dropEndWhile_append (Text.ofNat number)
  have hv := congrArg Text.decimalValue hz
  rw [Text.decimalValue_ofNat, Text.decimalValue_append, Text.decimalValue_replicate_zero,
    List.length_replicate, Nat.add_zero] at hv
  have hl := congrArg List.length hz
  rw [List.length_append, List.length_replicate] at hl
  have hs : ((Text.ofNat number).length : Int) + scale - digits.length = zeros + scale := by
    rw [hl]
    push_cast
    ring
  apply ofScaled_congr
  rw [hs, zpow_add₀ (by norm_num), zpow_natCast, ← mul_assoc]
  congr 1
  conv_rhs => rw [hv]
  push_cast
  rfl

theorem denotes_magnitudeText (h : Canonical m e) :
    Denotes (magnitudeText m e) (finite false m e) := by
  unfold magnitudeText
  split
  · next hz =>
    -- zero has no shortest decimal; its text is the one of the digit 0 before the point
    subst hz
    have hd : ∀ c ∈ ['0'], c.isDigit = true := by simp
    have hp := denotes_positional hd (List.cons_ne_nil '0' []) 1
    have hv : ofScaled 0 0 = finite false 0 e := by
      rw [h.least_of_lt (by decide), ofScaled, Nat.zero_mul, ofRatio, if_pos rfl, zero]
    exact hv ▸ hp
  · next hz =>
    have hm := Nat.pos_of_ne_zero hz
    have hs := ofScaled_shortest h hm
    simp only
    generalize (shortest m e).1 = number at hs ⊢
    generalize (shortest m e).2 = scale at hs ⊢
    rw [← ofScaled_dropEndWhile] at hs
    have hd : ∀ c ∈ Text.dropEndWhile (· == '0') (Text.ofNat number), c.isDigit = true := by
      intro c hc
      obtain ⟨zeros, ha⟩ := Text.eq_dropEndWhile_append (Text.ofNat number)
      have hm : c ∈ Text.ofNat number := by
        rw [ha]
        exact List.mem_append_left _ hc
      exact Text.isDigit_of_mem_ofNat hm
    have hn : Text.dropEndWhile (· == '0') (Text.ofNat number) ≠ [] := by
      intro hnil
      have hp := (place_bounds h hm hs).1
      rw [hnil] at hp
      exact absurd hp (by decide)
    split
    · rw [← hs]
      exact denotes_positional hd hn _
    · exact denotes_scientific hd hn h hm hs

def IsDouble : Binary64 → Prop
  | finite _ m e => Canonical m e
  | _ => False

theorem isDouble_zero : zero.IsDouble := ⟨by decide, by decide, by decide, fun _ => rfl⟩

/-- Rounding makes no other finite numbers. -/
theorem isDouble_ofRatio (num : Nat) {den : Nat} (hd : 0 < den)
    (hf : (ofRatio num den).isFinite = true) : (ofRatio num den).IsDouble := by
  obtain ⟨m, e, he, hc, -⟩ := ofRatio_nearest num hd hf
  rw [he]
  exact hc

/-- Every finite number is read back from its text. -/
theorem read?_toText {x : Binary64} (h : x.IsDouble) : read? x.toText = some x := by
  cases x with
  | nan => cases h
  | infinite negative => cases h
  | finite negative m e =>
    have hd := denotes_magnitudeText (m := m) (e := e) h
    cases negative with
    | true =>
      have hr : read? (toText (finite true m e)) = (readMagnitude? (magnitudeText m e)).map negate :=
        rfl
      rw [hr, hd.reads]
      rfl
    | false =>
      obtain ⟨c, rest, hc, hg⟩ := hd.first
      have ht : toText (finite false m e) = c :: rest := hc
      rw [ht]
      unfold read?
      split
      · next he =>
        cases he
        exact absurd hg (by decide)
      · next he =>
        cases he
        exact absurd hg (by decide)
      · rw [← hc, hd.reads]

theorem mem_toText {x : Binary64} (h : x.IsDouble) {c : Char} (hc : c ∈ x.toText) :
    c.isDigit = true ∨ c = '.' ∨ c = 'e' ∨ c = '-' := by
  cases x with
  | nan => cases h
  | infinite negative => cases h
  | finite negative m e =>
    rcases List.mem_append.mp hc with hs | hm
    · cases negative with
      | true => exact .inr (.inr (.inr (List.mem_singleton.mp hs)))
      | false => cases hs
    · exact (denotes_magnitudeText h).plain c hm

end Binary64
end InstanceCatalog
