import InstanceCatalog.Proofs.Text.Pieces
import InstanceCatalog.Proofs.Web.Percent

namespace InstanceCatalog
namespace WebUrl

def isDotSegment (segment : Text) : Bool := isDoubleDot segment || isSingleDot segment

theorem eq_dot_of_mem_encodeChar {c : Char} (h : 0x2E ∈ Utf8.encodeChar c) : c = '.' := by
  by_cases hc : c.toNat < 0x80
  · rw [Utf8.encodeChar_of_ascii hc, List.mem_singleton] at h
    have hn := congrArg UInt8.toNat h
    rw [Utf8.toNat_toUInt8 (by omega)] at hn
    exact Char.toNat_inj.mp hn.symm
  · exact absurd (Utf8.le_of_mem_encodeChar (by omega) h) (by decide)

/-- The digits of an escaped dot. -/
theorem escape_eq_dot_iff {a b : Char} (ha : Text.isHexDigit a = true)
    (hb : Text.isHexDigit b = true) :
    (16 * Text.hexDigitValue a + Text.hexDigitValue b).toUInt8 = 0x2E ↔
      a = '2' ∧ (b = 'e' ∨ b = 'E') := by
  have hla := hexDigitValue_lt ha
  have hlb := hexDigitValue_lt hb
  rw [← UInt8.toNat_inj, Utf8.toNat_toUInt8 (by omega)]
  have hd : ∀ {c d : Char}, c.toNat = d.toNat ↔ c = d := Char.toNat_inj
  rw [← hd, ← hd (d := 'e'), ← hd (d := 'E')]
  have h2 : '2'.toNat = 50 := rfl
  have he : 'e'.toNat = 101 := rfl
  have hE : 'E'.toNat = 69 := rfl
  have hdot : (0x2E : UInt8).toNat = 46 := rfl
  rw [h2, he, hE, hdot]
  rcases hexDigitValue_cases ha with ha | ha | ha <;>
    rcases hexDigitValue_cases hb with hb | hb | hb <;> omega

theorem dotForm_cons_of_ne {c : Char} {rest : Text} (hc : c ≠ '.')
    (h : beginsEscape (c :: rest) = false) : dotForm (c :: rest) = c :: rest := by
  unfold dotForm
  split
  · next he =>
    rw [he] at h
    cases h
  · next he =>
    rw [he] at h
    cases h
  · next he => exact absurd (List.cons.inj he).1 hc
  · rfl

theorem dotForm_escape_of_ne {a b : Char} {rest : Text} (h : ¬(a = '2' ∧ (b = 'e' ∨ b = 'E'))) :
    dotForm ('%' :: a :: b :: rest) = '%' :: a :: b :: rest := by
  unfold dotForm
  split
  · next he =>
    obtain ⟨-, rfl, rfl, -⟩ := by simpa only [List.cons.injEq] using he
    exact absurd ⟨rfl, .inl rfl⟩ h
  · next he =>
    obtain ⟨-, rfl, rfl, -⟩ := by simpa only [List.cons.injEq] using he
    exact absurd ⟨rfl, .inr rfl⟩ h
  · next he => cases he
  · rfl

section Repeated

variable {α β : Type} {a x : α} {b y : β} {as : List α} {bs : List β}

theorem cons_eq_replicate_iff (h : ∀ n, as = List.replicate n a ↔ bs = List.replicate n b)
    (n : Nat) : a :: as = List.replicate n a ↔ b :: bs = List.replicate n b := by
  cases n with
  | zero => exact iff_of_false (nomatch ·) (nomatch ·)
  | succ n => simp only [List.replicate_succ, List.cons.injEq, true_and, h]

theorem cons_eq_replicate_iff_of_ne (hx : x ≠ a) (hy : y ≠ b) (n : Nat) :
    x :: as = List.replicate n a ↔ y :: bs = List.replicate n b := by
  cases n with
  | zero => exact iff_of_false (nomatch ·) (nomatch ·)
  | succ n => exact iff_of_false (fun h => hx (List.cons.inj h).1) fun h => hy (List.cons.inj h).1

end Repeated

/-- A segment reads as dots when its bytes do. -/
theorem dotForm_eq_replicate_iff (s : Text) (n : Nat) :
    dotForm s = List.replicate n '.' ↔ percentDecode s = List.replicate n 0x2E := by
  induction s using escape_induction generalizing n with
  | nil =>
    cases n with
    | zero => exact iff_of_true rfl rfl
    | succ n => exact iff_of_false (nomatch ·) (nomatch ·)
  | escape a b rest ha hb ih =>
    have he := beginsEscape_of_isHexDigit ha hb rest
    rw [percentDecode_escape he]
    by_cases hd : a = '2' ∧ (b = 'e' ∨ b = 'E')
    · have hf : dotForm ('%' :: a :: b :: rest) = '.' :: dotForm rest := by
        obtain ⟨rfl, rfl | rfl⟩ := hd <;> rfl
      rw [hf, (escape_eq_dot_iff ha hb).mpr hd]
      exact cons_eq_replicate_iff ih n
    · rw [dotForm_escape_of_ne hd]
      exact cons_eq_replicate_iff_of_ne (by decide) (mt (escape_eq_dot_iff ha hb).mp hd) n
  | char c rest hc ih =>
    rw [percentDecode_cons hc]
    by_cases hd : c = '.'
    · subst hd
      exact cons_eq_replicate_iff ih n
    · obtain ⟨byte, bytes, hb⟩ := List.exists_cons_of_ne_nil (Utf8.encodeChar_ne_nil c)
      have hn : byte ≠ 0x2E := by
        rintro rfl
        apply hd
        apply eq_dot_of_mem_encodeChar
        rw [hb]
        exact List.mem_cons_self
      rw [dotForm_cons_of_ne hd hc, hb]
      exact cons_eq_replicate_iff_of_ne hd hn n

theorem isDotSegment_iff (s : Text) :
    isDotSegment s = true ↔ percentDecode s = [0x2E, 0x2E] ∨ percentDecode s = [0x2E] := by
  rw [isDotSegment, isDoubleDot, isSingleDot, Bool.or_eq_true, beq_iff_eq, beq_iff_eq]
  exact or_congr (dotForm_eq_replicate_iff s 2) (dotForm_eq_replicate_iff s 1)

/-- Without escapes a segment of dots is written with dots. -/
theorem isDotSegment_iff_of_not_hasEscape {s : Text} (h : ¬HasEscape s) :
    isDotSegment s = true ↔ s = ['.', '.'] ∨ s = ['.'] := by
  have hs : Utf8.encode ['.', '.'] = [0x2E, 0x2E] ∧ Utf8.encode ['.'] = [0x2E] := by decide
  rw [isDotSegment_iff, percentDecode_of_not_hasEscape h, ← hs.1, ← hs.2, Utf8.encode_inj,
    Utf8.encode_inj]

/-- Segments of dots are not empty. -/
theorem length_encode_of_isDotSegment {s : Text} (h : isDotSegment s = true) :
    0 < (Utf8.encode s).length := by
  cases s with
  | nil => cases h
  | cons c rest =>
    rw [Utf8.encode_cons, List.length_append]
    have hc := length_encodeChar_pos c
    omega

variable {mustEncode : Char → Bool}

/-- Encoding leaves a segment one of dots or none. -/
theorem dotForm_percentEncode_eq_replicate_iff (h : KeepsEscapes mustEncode) (s : Text) (n : Nat) :
    dotForm (percentEncode mustEncode s) = List.replicate n '.' ↔
      dotForm s = List.replicate n '.' := by
  rw [dotForm_eq_replicate_iff, dotForm_eq_replicate_iff, percentDecode_percentEncode h]

theorem isDoubleDot_percentEncode (h : KeepsEscapes mustEncode) (s : Text) :
    isDoubleDot (percentEncode mustEncode s) = isDoubleDot s := by
  rw [isDoubleDot, isDoubleDot, Bool.eq_iff_iff, beq_iff_eq, beq_iff_eq]
  exact dotForm_percentEncode_eq_replicate_iff h s 2

theorem isSingleDot_percentEncode (h : KeepsEscapes mustEncode) (s : Text) :
    isSingleDot (percentEncode mustEncode s) = isSingleDot s := by
  rw [isSingleDot, isSingleDot, Bool.eq_iff_iff, beq_iff_eq, beq_iff_eq]
  exact dotForm_percentEncode_eq_replicate_iff h s 1

/-- Dot segments are resolved alike before the segments are encoded and after. -/
theorem resolveDots_percentEncode (h : KeepsEscapes mustEncode) (segments path : List Text) :
    resolveDots (path.map (percentEncode mustEncode)) (segments.map (percentEncode mustEncode)) =
      (resolveDots path segments).map (percentEncode mustEncode) := by
  induction segments generalizing path with
  | nil => rfl
  | cons segment rest ih =>
    have he : percentEncode mustEncode [] = [] := rfl
    simp only [List.map_cons, resolveDots, isDoubleDot_percentEncode h,
      isSingleDot_percentEncode h, List.isEmpty_map]
    cases isDoubleDot segment <;> cases isSingleDot segment <;> cases rest.isEmpty <;>
      simp [← ih, he]

def segmentBytes : List Text → Nat
  | [] => 0
  | segment :: rest => (Utf8.encode segment).length + 1 + segmentBytes rest

@[simp] theorem segmentBytes_nil : segmentBytes [] = 0 := rfl

@[simp] theorem segmentBytes_cons (segment : Text) (rest : List Text) :
    segmentBytes (segment :: rest) = (Utf8.encode segment).length + 1 + segmentBytes rest := rfl

@[simp] theorem segmentBytes_append (segments others : List Text) :
    segmentBytes (segments ++ others) = segmentBytes segments + segmentBytes others := by
  induction segments with
  | nil => simp
  | cons segment rest ih =>
    rw [List.cons_append, segmentBytes_cons, segmentBytes_cons, ih]
    omega

theorem segmentBytes_dropLast (segments : List Text) :
    segmentBytes segments.dropLast ≤ segmentBytes segments := by
  rcases List.eq_nil_or_concat segments with rfl | ⟨front, last, rfl⟩
  · exact le_rfl
  · rw [List.concat_eq_append, List.dropLast_concat, segmentBytes_append]
    exact Nat.le_add_right _ _

theorem resolveDots_cons_of_not_dot {segment : Text} (h : isDotSegment segment = false)
    (path rest : List Text) :
    resolveDots path (segment :: rest) = resolveDots (path ++ [segment]) rest := by
  obtain ⟨hd, hs⟩ := Bool.or_eq_false_iff.mp h
  simp only [resolveDots, hd, hs, Bool.or_self, Bool.false_eq_true, if_false]

/-- A dot segment leaves a path that is shorter than with the segment at its end. -/
theorem resolveDots_cons_of_dot {segment : Text} (h : isDotSegment segment = true)
    (path rest : List Text) :
    ∃ kept, resolveDots path (segment :: rest) = resolveDots kept rest ∧
      segmentBytes kept < segmentBytes (path ++ [segment]) ∧ (rest = [] → kept ≠ []) := by
  have hp : ∃ shorter, segmentBytes shorter ≤ segmentBytes path ∧
      resolveDots path (segment :: rest) =
        resolveDots (if rest.isEmpty then shorter ++ [[]] else shorter) rest := by
    refine ⟨if isDoubleDot segment then path.dropLast else path, ?_, ?_⟩
    · split
      · exact segmentBytes_dropLast path
      · exact le_rfl
    · rw [isDotSegment] at h
      rw [resolveDots, if_pos h]
  obtain ⟨shorter, hb, hr⟩ := hp
  have hn := length_encode_of_isDotSegment h
  have he : segmentBytes [[]] = 1 := rfl
  have hs : segmentBytes (path ++ [segment]) = segmentBytes path + (Utf8.encode segment).length + 1 :=
    segmentBytes_append _ _
  refine ⟨_, hr, ?_, ?_⟩
  · split
    · rw [segmentBytes_append]
      omega
    · omega
  · rintro rfl
    exact List.append_ne_nil_of_right_ne_nil _ (List.cons_ne_nil _ _)

/-- A path without dot segments is kept. -/
theorem resolveDots_eq_append {segments : List Text}
    (h : ∀ segment ∈ segments, isDotSegment segment = false) (path : List Text) :
    resolveDots path segments = path ++ segments := by
  induction segments generalizing path with
  | nil => exact (List.append_nil path).symm
  | cons segment rest ih =>
    obtain ⟨hs, hr⟩ := List.forall_mem_cons.mp h
    rw [resolveDots_cons_of_not_dot hs, ih hr, List.append_assoc, List.singleton_append]

/-- Each dot segment makes a path shorter. -/
theorem segmentBytes_resolveDots_le (segments path : List Text) :
    segmentBytes (resolveDots path segments) + segments.countP isDotSegment ≤
      segmentBytes path + segmentBytes segments := by
  induction segments generalizing path with
  | nil => exact Nat.le_add_right _ _
  | cons segment rest ih =>
    have hp : segmentBytes (path ++ [segment]) + segmentBytes rest =
        segmentBytes path + segmentBytes (segment :: rest) := by
      rw [segmentBytes_append, segmentBytes_cons segment, segmentBytes_cons segment, Nat.add_assoc]
      rfl
    rw [List.countP_cons]
    cases hs : isDotSegment segment with
    | false =>
      have hi := ih (path ++ [segment])
      rw [resolveDots_cons_of_not_dot hs, if_neg (by simp)]
      omega
    | true =>
      obtain ⟨kept, hr, hk, -⟩ := resolveDots_cons_of_dot hs path rest
      have hi := ih kept
      rw [hr, if_pos rfl]
      omega

/-- There is always a segment. -/
theorem resolveDots_ne_nil {segments : List Text} (h : segments ≠ []) (path : List Text) :
    resolveDots path segments ≠ [] := by
  induction segments generalizing path with
  | nil => exact absurd rfl h
  | cons segment rest ih =>
    cases hs : isDotSegment segment with
    | false =>
      rw [resolveDots_cons_of_not_dot hs]
      by_cases hn : rest = []
      · rw [hn, resolveDots]
        exact List.append_ne_nil_of_right_ne_nil _ (List.cons_ne_nil _ _)
      · exact ih hn _
    | true =>
      obtain ⟨kept, hr, -, hk⟩ := resolveDots_cons_of_dot hs path rest
      rw [hr]
      by_cases hn : rest = []
      · rw [hn, resolveDots]
        exact hk hn
      · exact ih hn _

end WebUrl
end InstanceCatalog
