import InstanceCatalog.Proofs.Text.Window
import InstanceCatalog.Web.Url
import Mathlib.Data.List.Infix

namespace InstanceCatalog
namespace WebUrl

def beginsEscape : Text → Bool
  | '%' :: a :: b :: _ => Text.isHexDigit a && Text.isHexDigit b
  | _ => false

def HasEscape (s : Text) : Prop := ∃ rest ∈ s.tails, beginsEscape rest = true

instance : DecidablePred HasEscape := fun s =>
  inferInstanceAs (Decidable (∃ rest ∈ s.tails, beginsEscape rest = true))

theorem hasEscape_cons (c : Char) (s : Text) :
    HasEscape (c :: s) ↔ beginsEscape (c :: s) = true ∨ HasEscape s := by
  simp [HasEscape]

theorem not_hasEscape_nil : ¬HasEscape [] := by decide

/-- The digits stand in three runs of characters. -/
theorem hexDigitValue_cases {c : Char} (h : Text.isHexDigit c = true) :
    (48 ≤ c.toNat ∧ c.toNat ≤ 57 ∧ Text.hexDigitValue c = c.toNat - 48) ∨
      (97 ≤ c.toNat ∧ c.toNat ≤ 102 ∧ Text.hexDigitValue c = c.toNat - 87) ∨
        (65 ≤ c.toNat ∧ c.toNat ≤ 70 ∧ Text.hexDigitValue c = c.toNat - 55) := by
  have hle : ∀ a b : Char, a ≤ b ↔ a.toNat ≤ b.toNat := fun a b => UInt32.le_iff_toNat_le
  have hd : c.isDigit = true ↔ 48 ≤ c.toNat ∧ c.toNat ≤ 57 := Char.isDigit_iff_toNat
  simp only [Text.isHexDigit, Bool.or_eq_true, Bool.and_eq_true, decide_eq_true_eq, hle, hd] at h
  unfold Text.hexDigitValue
  rcases h with (h | h) | h
  · rw [if_pos (hd.mpr h)]
    exact .inl ⟨h.1, h.2, rfl⟩
  · have hl : 97 ≤ c.toNat ∧ c.toNat ≤ 102 := h
    rw [if_neg (by rw [hd]; omega), Text.toLower_eq_self (by omega)]
    exact .inr (.inl ⟨hl.1, hl.2, rfl⟩)
  · have hu : 65 ≤ c.toNat ∧ c.toNat ≤ 70 := h
    rw [if_neg (by rw [hd]; omega), Text.toNat_toLower (by omega) (by omega)]
    exact .inr (.inr ⟨hu.1, hu.2, by omega⟩)

theorem hexDigitValue_lt {c : Char} (h : Text.isHexDigit c = true) : Text.hexDigitValue c < 16 := by
  rcases hexDigitValue_cases h with h | h | h <;> omega

theorem valueIn?_pair {a b : Char} (h : (Text.isHexDigit a && Text.isHexDigit b) = true) :
    Text.valueIn? 16 [a, b] = some (16 * Text.hexDigitValue a + Text.hexDigitValue b) := by
  obtain ⟨ha, hb⟩ := Bool.and_eq_true_iff.mp h
  simp [Text.valueIn?, Text.digitIn?, ha, hb, hexDigitValue_lt]

theorem valueIn?_pair_eq_none {a b : Char} (h : (Text.isHexDigit a && Text.isHexDigit b) = false) :
    Text.valueIn? 16 [a, b] = none := by
  rcases Bool.and_eq_false_iff.mp h with ha | hb
  · simp [Text.valueIn?, Text.digitIn?, ha]
  · simp [Text.valueIn?, Text.digitIn?, hb]

/-- The digits that bytes are escaped with. -/
theorem digitIn?_hexDigit {n : Nat} (h : n < 16) : Text.digitIn? 16 (hexDigit n) = some n := by
  have ha : ∀ n < 16, Text.digitIn? 16 (hexDigit n) = some n := by decide
  exact ha n h

theorem percentDecode_cons {c : Char} {rest : Text} (h : beginsEscape (c :: rest) = false) :
    percentDecode (c :: rest) = Utf8.encodeChar c ++ percentDecode rest := by
  by_cases hc : c = '%'
  · subst hc
    match rest with
    | [] => simp [percentDecode]
    | [_] => simp [percentDecode]
    | a :: b :: rest => rw [percentDecode, valueIn?_pair_eq_none h]
  · simp [percentDecode, hc]

theorem beginsEscape_of_ne {c : Char} (h : c ≠ '%') (s : Text) : beginsEscape (c :: s) = false := by
  unfold beginsEscape
  split
  · next he => exact absurd (List.cons.inj he).1 h
  · rfl

theorem percentDecode_cons_of_ne {c : Char} (h : c ≠ '%') (s : Text) :
    percentDecode (c :: s) = Utf8.encodeChar c ++ percentDecode s :=
  percentDecode_cons (beginsEscape_of_ne h s)

theorem percentDecode_escape {a b : Char} {rest : Text}
    (h : beginsEscape ('%' :: a :: b :: rest) = true) :
    percentDecode ('%' :: a :: b :: rest) =
      (16 * Text.hexDigitValue a + Text.hexDigitValue b).toUInt8 :: percentDecode rest := by
  rw [percentDecode, valueIn?_pair h]

theorem beginsEscape_of_isHexDigit {a b : Char} (ha : Text.isHexDigit a = true)
    (hb : Text.isHexDigit b = true) (rest : Text) :
    beginsEscape ('%' :: a :: b :: rest) = true := Bool.and_eq_true_iff.mpr ⟨ha, hb⟩

/-- Where an escape begins, two digits follow the percent sign. -/
theorem exists_of_beginsEscape {s : Text} (h : beginsEscape s = true) :
    ∃ a b rest, s = '%' :: a :: b :: rest ∧ Text.isHexDigit a = true ∧
      Text.isHexDigit b = true := by
  unfold beginsEscape at h
  split at h
  · next a b rest => exact ⟨a, b, rest, rfl, Bool.and_eq_true_iff.mp h⟩
  · cases h

theorem percentDecode_escapeByte (byte : UInt8) (rest : Text) :
    percentDecode (escapeByte byte ++ rest) = byte :: percentDecode rest := by
  have hb := byte.toNat_lt
  have hv : Text.valueIn? 16 [hexDigit (byte.toNat / 16), hexDigit (byte.toNat % 16)] =
      some byte.toNat := by
    simp only [Text.valueIn?, List.mapM_cons, List.mapM_nil, digitIn?_hexDigit
      (by omega : byte.toNat / 16 < 16), digitIn?_hexDigit (by omega : byte.toNat % 16 < 16)]
    simp only [Option.pure_def, Option.bind_eq_bind, Option.bind_some, List.foldl_cons,
      List.foldl_nil]
    congr 1
    omega
  rw [escapeByte, List.cons_append, List.cons_append, List.singleton_append, percentDecode, hv]
  simp

theorem percentDecode_escapeBytes (bytes : Bytes) (rest : Text) :
    percentDecode (bytes.flatMap escapeByte ++ rest) = bytes ++ percentDecode rest := by
  induction bytes with
  | nil => rfl
  | cons byte bytes ih =>
    rw [List.flatMap_cons, List.append_assoc, percentDecode_escapeByte, ih, List.cons_append]

/-- A text is read escape by escape and character by character. -/
@[elab_as_elim]
theorem escape_induction {motive : Text → Prop} (s : Text) (nil : motive [])
    (escape : ∀ a b rest, Text.isHexDigit a = true → Text.isHexDigit b = true → motive rest →
      motive ('%' :: a :: b :: rest))
    (char : ∀ c rest, beginsEscape (c :: rest) = false → motive rest → motive (c :: rest)) :
    motive s := by
  match s with
  | [] => exact nil
  | c :: rest =>
    cases h : beginsEscape (c :: rest) with
    | true =>
      obtain ⟨a, b, tail, he, ha, hb⟩ := exists_of_beginsEscape h
      have hl : tail.length < (c :: rest).length := by
        rw [he]
        simp only [List.length_cons]
        omega
      rw [he]
      exact escape a b tail ha hb (escape_induction tail nil escape char)
    | false => exact char c rest h (escape_induction rest nil escape char)
termination_by s.length
decreasing_by
  · exact Nat.lt_succ_self rest.length
  · exact hl

theorem HasEscape.mono {s t : Text} (h : s <:+: t) (hs : HasEscape s) : HasEscape t := by
  obtain ⟨rest, hr, he⟩ := hs
  obtain ⟨front, back, rfl⟩ := h
  obtain ⟨a, b, tail, rfl, ha, hb⟩ := exists_of_beginsEscape he
  obtain ⟨before, rfl⟩ := (List.mem_tails _ _).mp hr
  refine ⟨'%' :: a :: b :: (tail ++ back), (List.mem_tails _ _).mpr ⟨front ++ before, ?_⟩,
    beginsEscape_of_isHexDigit ha hb _⟩
  simp only [List.append_assoc, List.cons_append]

/-- A text without escapes is decoded to its bytes. -/
theorem percentDecode_of_not_hasEscape {s : Text} (h : ¬HasEscape s) :
    percentDecode s = Utf8.encode s := by
  induction s with
  | nil => rfl
  | cons c rest ih =>
    rw [hasEscape_cons, not_or, Bool.not_eq_true] at h
    rw [percentDecode_cons h.1, ih h.2, Utf8.encode_cons]

theorem length_encodeChar_pos (c : Char) : 0 < (Utf8.encodeChar c).length :=
  List.length_pos_iff.mpr (Utf8.encodeChar_ne_nil c)

/-- Each escape makes the bytes fewer. -/
theorem length_percentDecode (s : Text) :
    (percentDecode s).length ≤ (Utf8.encode s).length ∧
      (HasEscape s → (percentDecode s).length < (Utf8.encode s).length) := by
  induction s using escape_induction with
  | nil => exact ⟨le_rfl, fun h => absurd h not_hasEscape_nil⟩
  | escape a b rest ha hb ih =>
    have he := beginsEscape_of_isHexDigit ha hb rest
    have hp := length_encodeChar_pos '%'
    have hpa := length_encodeChar_pos a
    simp only [percentDecode_escape he, Utf8.encode_cons, List.length_cons, List.length_append]
    omega
  | char c rest h ih =>
    rw [percentDecode_cons h, Utf8.encode_cons, List.length_append, List.length_append,
      hasEscape_cons, h]
    simpa using ih

def KeepsEscapes (mustEncode : Char → Bool) : Prop :=
  ∀ c, c = '%' ∨ Text.isHexDigit c = true → mustEncode c = false

variable {mustEncode : Char → Bool}

theorem percentEncode_cons (c : Char) (s : Text) :
    percentEncode mustEncode (c :: s) = (if mustEncode c then
      (Utf8.encodeChar c).flatMap escapeByte else [c]) ++ percentEncode mustEncode s :=
  List.flatMap_cons

/-- A character stands for itself or begins with a percent sign. -/
theorem percentEncode_cons_cases (mustEncode : Char → Bool) (c : Char) (s : Text) :
    mustEncode c = false ∧ percentEncode mustEncode (c :: s) = c :: percentEncode mustEncode s ∨
      mustEncode c = true ∧ ∃ tail, percentEncode mustEncode (c :: s) = '%' :: tail := by
  rw [percentEncode_cons]
  cases hc : mustEncode c with
  | false => exact .inl ⟨rfl, rfl⟩
  | true =>
    obtain ⟨byte, bytes, hb⟩ := List.exists_cons_of_ne_nil (Utf8.encodeChar_ne_nil c)
    rw [hb]
    exact .inr ⟨rfl, _, rfl⟩

/-- What is escaped begins no escape with a percent sign before it. -/
theorem beginsEscape_percentEncode (h : KeepsEscapes mustEncode) (s : Text) :
    beginsEscape ('%' :: percentEncode mustEncode s) = beginsEscape ('%' :: s) := by
  have hk : ∀ c, mustEncode c = true → Text.isHexDigit c = false := by
    intro c hc
    rw [Bool.eq_false_iff]
    intro hd
    rw [h c (.inr hd)] at hc
    cases hc
  have hp : Text.isHexDigit '%' = false := by decide
  match s with
  | [] => rfl
  | a :: rest =>
    rcases percentEncode_cons_cases mustEncode a rest with ⟨-, ha⟩ | ⟨hm, tail, ha⟩
    · rw [ha]
      match rest with
      | [] => rfl
      | b :: rest =>
        rcases percentEncode_cons_cases mustEncode b rest with ⟨-, hb⟩ | ⟨hm, tail, hb⟩
        · rw [hb]
          rfl
        · rw [hb]
          simp [beginsEscape, hp, hk b hm]
    · rw [ha]
      cases tail <;> cases rest <;> simp [beginsEscape, hp, hk a hm]

/-- Encoding does not change what a text is decoded to. -/
theorem percentDecode_percentEncode (h : KeepsEscapes mustEncode) (s : Text) :
    percentDecode (percentEncode mustEncode s) = percentDecode s := by
  induction s using escape_induction with
  | nil => rfl
  | escape a b rest ha hb ih =>
    have he := beginsEscape_of_isHexDigit ha hb
    have hs : percentEncode mustEncode ('%' :: a :: b :: rest) =
        '%' :: a :: b :: percentEncode mustEncode rest := by
      rw [percentEncode_cons, h '%' (.inl rfl), percentEncode_cons, h a (.inr ha),
        percentEncode_cons, h b (.inr hb)]
      rfl
    rw [hs, percentDecode_escape (he _), percentDecode_escape (he _), ih]
  | char c rest hc ih =>
    rw [percentDecode_cons hc, percentEncode_cons]
    split
    · rw [percentDecode_escapeBytes, ih]
    · have hn : beginsEscape (c :: percentEncode mustEncode rest) = false := by
        by_cases hp : c = '%'
        · rw [hp, beginsEscape_percentEncode h, ← hp, hc]
        · exact beginsEscape_of_ne hp _
      rw [List.singleton_append, percentDecode_cons hn, ih]

theorem beginsEscape_append_cons {d c : Char} {rest : Text}
    (h : beginsEscape (d :: rest) = false) (hc : Text.isHexDigit c = false) (t : Text) :
    beginsEscape (d :: (rest ++ c :: t)) = false := by
  by_cases hd : d = '%'
  · subst hd
    match rest with
    | [] => cases t <;> simp [beginsEscape, hc]
    | [_] => simp [beginsEscape, hc]
    | _ :: _ :: _ => exact h
  · exact beginsEscape_of_ne hd _

/-- A character that is no digit ends the escapes before it. -/
theorem percentDecode_append_cons (s : Text) {c : Char} (hc : Text.isHexDigit c = false)
    (t : Text) : percentDecode (s ++ c :: t) = percentDecode s ++ percentDecode (c :: t) := by
  induction s using escape_induction with
  | nil => rfl
  | escape a b rest ha hb ih =>
    have he := beginsEscape_of_isHexDigit ha hb
    simp only [List.cons_append, percentDecode_escape (he _), ih]
  | char d rest hd ih =>
    rw [List.cons_append, percentDecode_cons (beginsEscape_append_cons hd hc t),
      percentDecode_cons hd, ih, List.append_assoc]

end WebUrl
end InstanceCatalog
