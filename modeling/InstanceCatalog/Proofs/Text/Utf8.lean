import InstanceCatalog.Text.Utf8

namespace InstanceCatalog
namespace Utf8

theorem charAbove_toNat {c : Char} {least : Nat} (h : least ≤ c.toNat) :
    charAbove least c.toNat = some c := by
  have hv : c.toNat.isValidChar := c.valid
  rw [charAbove, dif_pos ⟨hv, h⟩]
  congr 1

theorem toNat_toUInt8 {n : Nat} (h : n < 256) : n.toUInt8.toNat = n := by
  simpa using h

theorem isContinuation_toUInt8 {n : Nat} (h : n < 64) :
    isContinuation (0x80 + n).toUInt8 = true := by
  rw [isContinuation, toNat_toUInt8 (by omega)]
  simp only [Bool.and_eq_true, decide_eq_true_eq]
  omega

theorem decodeChar_one {n : Nat} (h : n < 0x80) (rest : Bytes) :
    decodeChar (n.toUInt8 :: rest) = (charAbove 0 n).map (·, rest) := by
  simp only [decodeChar]
  rw [toNat_toUInt8 (by omega), if_pos h]

theorem decodeChar_two {n : Nat} (h : n < 0x800) (rest : Bytes) :
    decodeChar ((0xC0 + n / 64).toUInt8 :: (0x80 + n % 64).toUInt8 :: rest) =
      (charAbove 0x80 n).map (·, rest) := by
  have hc : isContinuation (0x80 + n % 64).toUInt8 = true := isContinuation_toUInt8 (by omega)
  simp only [decodeChar, hc]
  rw [toNat_toUInt8 (by omega), toNat_toUInt8 (by omega), if_neg (by omega), if_neg (by omega)]
  rw [if_neg (by simp), if_pos (by omega)]
  congr 2
  omega

theorem decodeChar_three {n : Nat} (h : n < 0x10000) (rest : Bytes) :
    decodeChar ((0xE0 + n / 4096).toUInt8 :: (0x80 + n / 64 % 64).toUInt8 ::
      (0x80 + n % 64).toUInt8 :: rest) = (charAbove 0x800 n).map (·, rest) := by
  have hc : isContinuation (0x80 + n / 64 % 64).toUInt8 = true :=
    isContinuation_toUInt8 (by omega)
  have hd : isContinuation (0x80 + n % 64).toUInt8 = true := isContinuation_toUInt8 (by omega)
  simp only [decodeChar, hc, hd]
  rw [toNat_toUInt8 (by omega), toNat_toUInt8 (by omega), toNat_toUInt8 (by omega),
    if_neg (by omega), if_neg (by omega), if_neg (by simp), if_neg (by omega), if_neg (by simp),
    if_pos (by omega)]
  congr 2
  omega

theorem decodeChar_four {n : Nat} (h : n < 0x110000) (rest : Bytes) :
    decodeChar ((0xF0 + n / 262144).toUInt8 :: (0x80 + n / 4096 % 64).toUInt8 ::
      (0x80 + n / 64 % 64).toUInt8 :: (0x80 + n % 64).toUInt8 :: rest) =
      (charAbove 0x10000 n).map (·, rest) := by
  have hb : isContinuation (0x80 + n / 4096 % 64).toUInt8 = true :=
    isContinuation_toUInt8 (by omega)
  have hc : isContinuation (0x80 + n / 64 % 64).toUInt8 = true :=
    isContinuation_toUInt8 (by omega)
  have hd : isContinuation (0x80 + n % 64).toUInt8 = true := isContinuation_toUInt8 (by omega)
  simp only [decodeChar, hb, hc, hd]
  rw [toNat_toUInt8 (by omega), toNat_toUInt8 (by omega), toNat_toUInt8 (by omega),
    toNat_toUInt8 (by omega), if_neg (by omega), if_neg (by omega), if_neg (by simp),
    if_neg (by omega), if_neg (by simp), if_neg (by omega), if_pos (by simp; omega)]
  congr 2
  omega

theorem toNat_lt (c : Char) : c.toNat < 0x110000 := by
  have hv : c.toNat.isValidChar := c.valid
  rcases hv with h | ⟨-, h⟩ <;> omega

/-- The shortest form of a character is the one that decoding accepts. -/
theorem decodeChar_encodeChar (c : Char) (rest : Bytes) :
    decodeChar (encodeChar c ++ rest) = some (c, rest) := by
  unfold encodeChar
  simp only
  split
  · next h =>
    rw [List.singleton_append, decodeChar_one h, charAbove_toNat (Nat.zero_le _), Option.map_some]
  · split
    · next h =>
      simp only [List.cons_append, List.nil_append]
      rw [decodeChar_two h, charAbove_toNat (by omega), Option.map_some]
    · split
      · next h =>
        simp only [List.cons_append, List.nil_append]
        rw [decodeChar_three h, charAbove_toNat (by omega), Option.map_some]
      · simp only [List.cons_append, List.nil_append]
        rw [decodeChar_four (toNat_lt c), charAbove_toNat (by omega), Option.map_some]

theorem encodeChar_ne_nil (c : Char) : encodeChar c ≠ [] := by
  unfold encodeChar
  simp only
  split
  · simp
  · split
    · simp
    · split <;> simp

theorem decodeWithin_encode (s : Text) (fuel : Nat) (h : (encode s).length ≤ fuel) :
    decodeWithin fuel (encode s) = some s := by
  induction s generalizing fuel with
  | nil => simp [encode, decodeWithin]
  | cons c rest ih =>
    have he : encode (c :: rest) = encodeChar c ++ encode rest := rfl
    have hp := List.length_pos_iff.mpr (encodeChar_ne_nil c)
    rw [he, List.length_append] at h
    cases fuel with
    | zero => omega
    | succ fuel =>
      rw [he, decodeWithin, decodeChar_encodeChar]
      · simp [ih fuel (by omega)]
      · simp [encodeChar_ne_nil]

theorem decode_encode (s : Text) : decode (encode s) = some s :=
  decodeWithin_encode s _ (Nat.le_refl _)

theorem encode_inj {s t : Text} : encode s = encode t ↔ s = t := by
  refine ⟨fun h => ?_, congrArg encode⟩
  have hd := congrArg decode h
  rw [decode_encode, decode_encode] at hd
  exact Option.some.inj hd

end Utf8
end InstanceCatalog
