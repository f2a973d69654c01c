import InstanceCatalog.Text.Blank
import Mathlib.Tactic.Linarith
import Mathlib.Tactic.Ring

namespace InstanceCatalog
namespace Text

theorem isBlank_of_isDigit {c : Char} (h : c.isDigit = true) : isBlank c = false := by
  have hd : 48 ≤ c.toNat ∧ c.toNat ≤ 57 := Char.isDigit_iff_toNat.mp h
  simp only [isBlank, Bool.or_eq_false_iff, Bool.and_eq_false_iff, decide_eq_false_iff_not,
    beq_eq_false_iff_ne]
  omega

theorem dropWhile_eq_self {p : Char → Bool} {s : Text} (h : ∀ c ∈ s, p c = false) :
    s.dropWhile p = s := by
  cases s with
  | nil => rfl
  | cons c rest => simp [h c List.mem_cons_self]

theorem trim_of_digits {s : Text} (h : ∀ c ∈ s, c.isDigit = true) : trim s = s := by
  have hs : ∀ c ∈ s, isBlank c = false := fun c hc => isBlank_of_isDigit (h c hc)
  have hr : ∀ c ∈ s.reverse, isBlank c = false := fun c hc => hs c (List.mem_reverse.mp hc)
  rw [trim, strip, dropEndWhile, dropWhile_eq_self hs, dropWhile_eq_self hr, List.reverse_reverse]

theorem decimalValue_append (s t : Text) :
    decimalValue (s ++ t) = decimalValue s * 10 ^ t.length + decimalValue t := by
  have hv : ∀ u : Text, decimalValue u = Nat.ofDigitChars 10 u 0 := fun _ => rfl
  rw [hv, hv, hv, Nat.ofDigitChars_append, Nat.ofDigitChars_eq_ofDigitChars_zero]
  ring

theorem decimalValue_lt {s : Text} (h : ∀ c ∈ s, c.isDigit = true) :
    decimalValue s < 10 ^ s.length := by
  induction s with
  | nil => simp [decimalValue]
  | cons c rest ih =>
    have hc : c.toNat ≤ 57 := (Char.isDigit_iff_toNat.mp (h c List.mem_cons_self)).2
    have hr := ih fun d hd => h d (List.mem_cons_of_mem _ hd)
    have hd : decimalValue [c] ≤ 9 := by
      simp only [decimalValue, List.foldl_cons, List.foldl_nil, digitValue]
      omega
    have ha := decimalValue_append [c] rest
    rw [List.singleton_append] at ha
    rw [ha, List.length_cons, pow_succ]
    have hm := Nat.mul_le_mul_right (10 ^ rest.length) hd
    linarith

theorem isDigit_of_mem_ofNat {n : Nat} {c : Char} (h : c ∈ ofNat n) : c.isDigit = true :=
  Nat.isDigit_of_mem_toDigits (by decide) (by decide) h

theorem ofNat_ne_nil (n : Nat) : ofNat n ≠ [] := Nat.toDigits_ne_nil

theorem decimalValue_ofNat (n : Nat) : decimalValue (ofNat n) = n := Nat.ofDigitChars_ten_toDigits

theorem length_ofNat_le {n k : Nat} (hk : 0 < k) (h : n < 10 ^ k) : (ofNat n).length ≤ k :=
  (Nat.length_toDigits_le_iff (by decide) hk).mpr h

theorem decimalValue_replicate_zero (n : Nat) : decimalValue (List.replicate n '0') = 0 := by
  induction n with
  | zero => rfl
  | succ n ih => simpa [List.replicate_succ, decimalValue, digitValue] using ih

end Text
end InstanceCatalog
