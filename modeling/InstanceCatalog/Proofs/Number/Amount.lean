import InstanceCatalog.Number.Amount
import InstanceCatalog.Proofs.Number.Rounding
import InstanceCatalog.Proofs.Text.Decimal
import InstanceCatalog.Proofs.Text.Trim

namespace InstanceCatalog

namespace Decimal

theorem read?_of_digits {s : Text} (hn : s ≠ []) (hd : ∀ c ∈ s, c.isDigit = true) :
    read? s = some ⟨Text.decimalValue s, 0⟩ := by
  have ht : s.takeWhile Char.isDigit = s := List.takeWhile_eq_self_iff.mpr hd
  have hr : s.dropWhile Char.isDigit = [] := List.dropWhile_eq_nil_iff.mpr hd
  simp [read?, ofParts, ht, hr, hn]

theorem read?_of_point {whole fraction : Text} (hn : whole ≠ [])
    (hw : ∀ c ∈ whole, c.isDigit = true) (hf : ∀ c ∈ fraction, c.isDigit = true) :
    read? (whole ++ '.' :: fraction) = some (ofParts whole fraction) := by
  have hs : ∀ c ∈ ('.' :: fraction).head?, c.isDigit = false := by simp
  have ht := Text.takeWhile_append_of_stop hw hs
  have hr := Text.dropWhile_append_of_stop hw hs
  have ha : fraction.all Char.isDigit = true := List.all_eq_true.mpr hf
  simp only [read?, ht, hr, ha]
  simp [hn]

end Decimal

namespace Amount

theorem joined_of_digits {s : Text} (hn : s ≠ []) (hd : ∀ c ∈ s, c.isDigit = true)
    (hv : Text.decimalValue s ≤ greatestCount) :
    joined s = some (.ofNat (Text.decimalValue s)) := by
  have hf : s.filter (fun c => c.isDigit || c == '.') = s := by
    apply List.filter_eq_self.mpr
    intro c hc
    simp [hd c hc]
  have ho : Binary64.ofDecimal ⟨Text.decimalValue s, 0⟩ = .ofNat (Text.decimalValue s) := rfl
  rw [joined, hf, Decimal.read?_of_digits hn hd]
  simp only [ho]
  rw [if_pos (Binary64.isFinite_ofNat hv)]

theorem joinedCount_of_digits {s : Text} (hn : s ≠ []) (hd : ∀ c ∈ s, c.isDigit = true)
    (hv : Text.decimalValue s ≤ 2 ^ 53) : joinedCount s = Text.decimalValue s := by
  have hg : Text.decimalValue s ≤ greatestCount := hv.trans (by decide)
  rw [joinedCount, joined_of_digits hn hd hg]
  exact Binary64.truncate_of_nearest (Binary64.ofNat_nearest hg) hv

theorem joined_ofNat {n : Nat} (h : n ≤ greatestCount) :
    joined (Text.ofNat n) = some (.ofNat n) := by
  have hj := joined_of_digits (Text.ofNat_ne_nil n) (fun _ => Text.isDigit_of_mem_ofNat)
    (by rwa [Text.decimalValue_ofNat])
  rwa [Text.decimalValue_ofNat] at hj

theorem joinedCount_ofNat {n : Nat} (h : n ≤ 2 ^ 53) : joinedCount (Text.ofNat n) = n := by
  have hj := joinedCount_of_digits (Text.ofNat_ne_nil n) (fun _ => Text.isDigit_of_mem_ofNat)
    (by rwa [Text.decimalValue_ofNat])
  rwa [Text.decimalValue_ofNat] at hj

/-- The first digits of a number, up to fifteen of them, are counted as the number they form. -/
theorem joinedCount_take_ofNat (n : Nat) {k : Nat} (hk : 0 < k) (hl : k ≤ 15) :
    joinedCount ((Text.ofNat n).take k) = Text.decimalValue ((Text.ofNat n).take k) := by
  have hd : ∀ c ∈ (Text.ofNat n).take k, c.isDigit = true := fun c hc =>
    Text.isDigit_of_mem_ofNat (List.mem_of_mem_take hc)
  have hn : (Text.ofNat n).take k ≠ [] := by
    simp [List.take_eq_nil_iff, Text.ofNat_ne_nil, hk.ne']
  have hv := Text.decimalValue_lt hd
  have hp : 10 ^ ((Text.ofNat n).take k).length ≤ 10 ^ 15 := by
    apply Nat.pow_le_pow_right (by decide)
    exact (List.length_take_le k _).trans hl
  apply joinedCount_of_digits hn hd
  exact hv.le.trans (hp.trans (by decide))

end Amount
end InstanceCatalog
