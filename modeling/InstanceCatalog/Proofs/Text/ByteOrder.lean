import InstanceCatalog.Proofs.Text.Utf8
import Mathlib.Tactic.SplitIfs

namespace InstanceCatalog

attribute [local instance (high)] instPowNat

namespace Utf8

theorem cons_lt_cons {a b : Nat} {l m : Bytes} (ha : a < 256) (hb : b < 256)
    (h : a < b ∨ a = b ∧ l < m) : a.toUInt8 :: l < b.toUInt8 :: m := by
  rw [List.cons_lt_cons_iff, UInt8.lt_iff_toNat_lt, toNat_toUInt8 ha, toNat_toUInt8 hb]
  rcases h with h | ⟨rfl, h⟩
  · exact .inl h
  · exact .inr ⟨rfl, h⟩

/-- A code in a lead byte above `base` and some continuation bytes of six bits each. -/
def form (base : Nat) : Nat → Nat → Bytes
  | 0, n => [(base + n).toUInt8]
  | count + 1, n => form base count (n / 64) ++ [(0x80 + n % 64).toUInt8]

theorem encodeChar_eq_form (c : Char) :
    encodeChar c =
      if c.toNat < 0x80 then form 0 0 c.toNat
      else if c.toNat < 0x800 then form 0xC0 1 c.toNat
      else if c.toNat < 0x10000 then form 0xE0 2 c.toNat
      else form 0xF0 3 c.toNat := by
  simp [encodeChar, form, Nat.div_div_eq_div_mul]

theorem form_append_lt {base : Nat} (count : Nat) {x y : Nat} (h : x < y)
    (hy : base + y / 64 ^ count < 256) (l m : Bytes) :
    form base count x ++ l < form base count y ++ m := by
  induction count generalizing x y l m with
  | zero =>
    rw [Nat.pow_zero, Nat.div_one] at hy
    exact cons_lt_cons (by omega) hy (.inl (by omega))
  | succ count ih =>
    rw [Nat.pow_succ', ← Nat.div_div_eq_div_mul] at hy
    simp only [form, List.append_assoc]
    -- the codes differ before their last six bits, or in these alone
    rcases Nat.lt_or_eq_of_le (Nat.div_le_div_right (c := 64) (Nat.le_of_lt h)) with hd | hd
    · exact ih hd hy _ _
    · rw [hd]
      exact List.append_left_lt (cons_lt_cons (by omega) (by omega) (.inl (by omega)))

theorem form_eq_cons (base count n : Nat) :
    ∃ rest, form base count n = (base + n / 64 ^ count).toUInt8 :: rest := by
  induction count generalizing n with
  | zero => exact ⟨[], by simp [form]⟩
  | succ count ih =>
    obtain ⟨rest, hr⟩ := ih (n / 64)
    rw [Nat.div_div_eq_div_mul, ← Nat.pow_succ'] at hr
    exact ⟨rest ++ [(0x80 + n % 64).toUInt8], by rw [form, hr, List.cons_append]⟩

theorem form_append_lt_form {base base' count count' x y : Nat}
    (hx : base + x / 64 ^ count < base' + y / 64 ^ count') (hy : base' + y / 64 ^ count' < 256)
    (l m : Bytes) : form base count x ++ l < form base' count' y ++ m := by
  obtain ⟨s, hs⟩ := form_eq_cons base count x
  obtain ⟨t, ht⟩ := form_eq_cons base' count' y
  rw [hs, ht]
  exact cons_lt_cons (by omega) hy (.inl hx)

/-- Whatever follows, the character with the smaller code comes first. -/
theorem encodeChar_append_lt {c d : Char} (h : c.toNat < d.toNat) (l m : Bytes) :
    encodeChar c ++ l < encodeChar d ++ m := by
  have hd := toNat_lt d
  rw [encodeChar_eq_form, encodeChar_eq_form]
  generalize c.toNat = x at h
  generalize d.toNat = y at h hd
  -- forms of one length compare by their codes, and a longer form has the greater lead byte
  split_ifs <;>
    first
    | omega
    | exact form_append_lt _ h (by omega) l m
    | exact form_append_lt_form (by omega) (by omega) l m

end Utf8

namespace Text

def Ascending (texts : List Text) : Prop :=
  texts.Pairwise fun s t => Utf8.encode s < Utf8.encode t

theorem encode_lt_of_precedes {s t : Text} (h : precedes s t = true) :
    Utf8.encode s < Utf8.encode t := by
  induction s generalizing t with
  | nil =>
    cases t with
    | nil => cases h
    | cons d t =>
      obtain ⟨b, l, hb⟩ := List.exists_cons_of_ne_nil (Utf8.encodeChar_ne_nil d)
      simp only [Utf8.encode, List.flatMap_nil, List.flatMap_cons, hb, List.cons_append]
      exact List.nil_lt_cons _ _
  | cons c s ih =>
    cases t with
    | nil => cases h
    | cons d t =>
      simp only [Utf8.encode, List.flatMap_cons]
      simp only [precedes] at h
      split at h
      · next hc =>
        rw [hc]
        exact List.append_left_lt (ih h)
      · exact Utf8.encodeChar_append_lt (by simpa using h) _ _

theorem precedes_or_eq_or_precedes (s t : Text) :
    precedes s t = true ∨ s = t ∨ precedes t s = true := by
  induction s generalizing t with
  | nil => cases t <;> simp [precedes]
  | cons c s ih =>
    cases t with
    | nil => simp [precedes]
    | cons d t =>
      by_cases hc : c = d
      · rcases ih t with h | rfl | h <;> simp_all [precedes]
      · have hn : c.toNat ≠ d.toNat := fun hn => hc (Char.toNat_inj.mp hn)
        simp only [precedes, hc, Ne.symm hc, if_false, decide_eq_true_eq]
        omega

theorem Ascending.nodup {texts : List Text} (h : Ascending texts) : texts.Nodup := by
  apply List.Pairwise.imp _ h
  rintro s t hs rfl
  exact List.lt_irrefl _ hs

theorem Ascending.insertSorted {texts : List Text} (h : Ascending texts) (s : Text) :
    Ascending (insertSorted s texts) := by
  induction texts with
  | nil => exact List.pairwise_singleton _ _
  | cons t rest ih =>
    obtain ⟨ht, hr⟩ := List.pairwise_cons.mp h
    unfold Text.insertSorted
    split
    · exact h
    · next hs =>
      split
      · next hp =>
        have hl := encode_lt_of_precedes hp
        refine List.pairwise_cons.mpr ⟨?_, h⟩
        intro u hu
        rcases List.mem_cons.mp hu with rfl | hu
        · exact hl
        · exact List.lt_trans hl (ht u hu)
      · next hp =>
        have hl : Utf8.encode t < Utf8.encode s := by
          rcases precedes_or_eq_or_precedes s t with h | h | h
          · exact absurd h hp
          · exact absurd h hs
          · exact encode_lt_of_precedes h
        refine List.pairwise_cons.mpr ⟨?_, ih hr⟩
        intro u hu
        rcases (mem_insertSorted u s rest).mp hu with rfl | hu
        · exact hl
        · exact ht u hu

theorem ascending_sortedSet (texts : List Text) : Ascending (sortedSet texts) := by
  induction texts with
  | nil => exact List.Pairwise.nil
  | cons s rest ih => exact ih.insertSorted s

end Text
end InstanceCatalog
