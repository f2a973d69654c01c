import InstanceCatalog.Proofs.Text.Utf8

namespace InstanceCatalog

namespace Text

theorem occursIn_iff {needle s : Text} : occursIn needle s = true ↔ needle <:+: s := by
  induction s with
  | nil => simp [occursIn]
  | cons c rest ih =>
    rw [occursIn, Bool.or_eq_true, List.isPrefixOf_iff_prefix, ih, List.infix_cons_iff]

theorem toLower_eq_self {c : Char} (h : ¬(0x41 ≤ c.toNat ∧ c.toNat ≤ 0x5A)) : c.toLower = c := by
  have hv : ¬(c.val ≥ 'A'.val ∧ c.val ≤ 'Z'.val) := by
    simpa [UInt32.le_iff_toNat_le] using h
  exact dif_neg hv

theorem toNat_toLower {c : Char} (hl : 0x41 ≤ c.toNat) (hu : c.toNat ≤ 0x5A) :
    c.toLower.toNat = c.toNat + 0x20 := by
  have hv : c.val ≥ 'A'.val ∧ c.val ≤ 'Z'.val := by
    simpa [UInt32.le_iff_toNat_le] using And.intro hl hu
  calc c.toLower.toNat = (c.val + ('a'.val - 'A'.val)).toNat := congrArg Char.toNat (dif_pos hv)
    _ = (c.toNat + 0x20) % 2 ^ 32 := UInt32.toNat_add _ _
    _ = c.toNat + 0x20 := Nat.mod_eq_of_lt (by omega)

end Text

namespace Utf8

@[simp] theorem encode_nil : encode [] = [] := rfl

@[simp] theorem encode_cons (c : Char) (s : Text) : encode (c :: s) = encodeChar c ++ encode s := rfl

theorem encode_append (s t : Text) : encode (s ++ t) = encode s ++ encode t := List.flatMap_append

theorem encode_infix_encode {s t : Text} (h : s <:+: t) : encode s <:+: encode t := by
  obtain ⟨before, after, rfl⟩ := h
  exact ⟨encode before, encode after, by simp only [encode_append]⟩

/-- No character's bytes begin another's, so the bytes before a cut tell the characters before it. -/
theorem prefix_of_encode {s t : Text} (h : encode s <+: encode t) : s <+: t := by
  induction s generalizing t with
  | nil => exact List.nil_prefix
  | cons c s ih =>
    obtain ⟨after, ha⟩ := h
    rw [encode_cons, List.append_assoc] at ha
    cases t with
    | nil => simp [encodeChar_ne_nil] at ha
    | cons x t =>
      have hd := congrArg decodeChar ha
      rw [encode_cons, decodeChar_encodeChar, decodeChar_encodeChar] at hd
      obtain ⟨rfl, hs⟩ := Prod.mk.inj (Option.some.inj hd)
      exact List.cons_prefix_cons.mpr ⟨rfl, ih ⟨after, hs⟩⟩

theorem encodeChar_of_ascii {c : Char} (h : c.toNat < 0x80) : encodeChar c = [c.toNat.toUInt8] := by
  rw [encodeChar, if_pos h]

theorem le_of_mem_encodeChar {c : Char} (h : 0x80 ≤ c.toNat) {b : UInt8} (hb : b ∈ encodeChar c) :
    0x80 ≤ b.toNat := by
  have hc := toNat_lt c
  unfold encodeChar at hb
  simp only at hb
  rw [if_neg (by omega)] at hb
  split at hb
  · simp only [List.mem_cons, List.not_mem_nil, or_false] at hb
    rcases hb with rfl | rfl <;> rw [toNat_toUInt8 (by omega)] <;> omega
  · split at hb
    · simp only [List.mem_cons, List.not_mem_nil, or_false] at hb
      rcases hb with rfl | rfl | rfl <;> rw [toNat_toUInt8 (by omega)] <;> omega
    · simp only [List.mem_cons, List.not_mem_nil, or_false] at hb
      rcases hb with rfl | rfl | rfl | rfl <;> rw [toNat_toUInt8 (by omega)] <;> omega

theorem infix_of_infix_append {b : UInt8} {window front back : Bytes} (hb : b ∉ front)
    (h : b :: window <:+: front ++ back) : b :: window <:+: back := by
  induction front with
  | nil => exact h
  | cons a front ih =>
    rw [List.mem_cons, not_or] at hb
    rw [List.cons_append, List.infix_cons_iff, List.cons_prefix_cons] at h
    rcases h with ⟨rfl, -⟩ | h
    · exact absurd rfl hb.1
    · exact ih hb.2 h

/-- The bytes of a text that begins with an ASCII character stand only where the text does. -/
theorem infix_of_encode {c : Char} {s t : Text} (hc : c.toNat < 0x80)
    (h : encode (c :: s) <:+: encode t) : c :: s <:+: t := by
  induction t with
  | nil => simp [encodeChar_ne_nil] at h
  | cons x t ih =>
    rw [List.infix_cons_iff]
    by_cases hx : x.toNat < 0x80
    · rw [encode_cons x, encodeChar_of_ascii hx, List.singleton_append, List.infix_cons_iff] at h
      rcases h with h | h
      · left
        apply prefix_of_encode
        rwa [encode_cons x, encodeChar_of_ascii hx]
      · exact .inr (ih h)
    · -- no byte of this character is the first one of the part
      right
      rw [encode_cons c, encodeChar_of_ascii hc, List.singleton_append, encode_cons x] at h
      have hb : c.toNat.toUInt8 ∉ encodeChar x := fun hb => by
        have hl := le_of_mem_encodeChar (by omega) hb
        rw [toNat_toUInt8 (by omega)] at hl
        omega
      apply ih
      rw [encode_cons c, encodeChar_of_ascii hc, List.singleton_append]
      exact infix_of_infix_append hb h

def asciiLower (b : UInt8) : UInt8 :=
  if 0x41 ≤ b.toNat ∧ b.toNat ≤ 0x5A then (b.toNat + 0x20).toUInt8 else b

/-- Letters change their case alike as characters and as bytes; no other byte changes. -/
theorem map_asciiLower_encodeChar (c : Char) :
    (encodeChar c).map asciiLower = encodeChar c.toLower := by
  by_cases hc : 0x41 ≤ c.toNat ∧ c.toNat ≤ 0x5A
  · have hl := Text.toNat_toLower hc.1 hc.2
    rw [encodeChar_of_ascii (by omega), encodeChar_of_ascii (by omega), List.map_singleton,
      asciiLower, toNat_toUInt8 (by omega), if_pos hc, hl]
  · have hb : ∀ b ∈ encodeChar c, asciiLower b = b := fun b hb => by
      rw [asciiLower, if_neg]
      by_cases ha : c.toNat < 0x80
      · rw [encodeChar_of_ascii ha, List.mem_singleton] at hb
        rwa [hb, toNat_toUInt8 (by omega)]
      · have := le_of_mem_encodeChar (by omega) hb
        omega
    rw [Text.toLower_eq_self hc, List.map_congr_left hb, List.map_id']

theorem map_asciiLower_encode (s : Text) :
    (encode s).map asciiLower = encode (s.map Char.toLower) := by
  induction s with
  | nil => rfl
  | cons c s ih => rw [encode_cons, List.map_append, map_asciiLower_encodeChar, ih]; rfl

/-- Looking for an ASCII word among the bytes of a text, in either case, is looking for it among
the small letters of the text. -/
theorem exists_window_iff {c : Char} {s t : Text} (hc : c.toNat < 0x80) :
    (∃ window, window <:+: encode t ∧ window.map asciiLower = encode (c :: s)) ↔
      c :: s <:+: t.map Char.toLower := by
  calc (∃ window, window <:+: encode t ∧ window.map asciiLower = encode (c :: s))
      ↔ encode (c :: s) <:+: (encode t).map asciiLower := by
        simp only [List.infix_map_iff, eq_comm]
    _ ↔ encode (c :: s) <:+: encode (t.map Char.toLower) := by rw [map_asciiLower_encode]
    _ ↔ c :: s <:+: t.map Char.toLower := ⟨infix_of_encode hc, encode_infix_encode⟩

end Utf8
end InstanceCatalog
