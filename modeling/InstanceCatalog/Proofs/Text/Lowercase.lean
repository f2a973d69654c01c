import InstanceCatalog.Text.Blank
import InstanceCatalog.Text.Lowercase
import InstanceCatalog.Proofs.Text.Trim
import InstanceCatalog.Proofs.Text.Window

namespace InstanceCatalog
namespace Text

def blankRanges : List (Nat × Nat) :=
  [(9, 13), (0x20, 0x20), (0x85, 0x85), (0xA0, 0xA0), (0x1680, 0x1680), (0x2000, 0x200A),
    (0x2028, 0x2029), (0x202F, 0x202F), (0x205F, 0x205F), (0x3000, 0x3000)]

theorem exists_blankRange {c : Char} (h : isBlank c = true) :
    ∃ blank ∈ blankRanges, blank.1 ≤ c.toNat ∧ c.toNat ≤ blank.2 := by
  simp only [isBlank, Bool.or_eq_true, Bool.and_eq_true, decide_eq_true_eq, beq_iff_eq] at h
  simp only [blankRanges, List.mem_cons, List.not_mem_nil, or_false, exists_eq_or_imp,
    exists_eq_left]
  omega

def HasNoBlank (range : Nat × Nat) : Prop :=
  ∀ blank ∈ blankRanges, range.2 < blank.1 ∨ blank.2 < range.1

instance : DecidablePred HasNoBlank := fun _ => inferInstanceAs (Decidable (∀ _ ∈ _, _))

theorem HasNoBlank.not_mem {range : Nat × Nat} (h : HasNoBlank range) {c : Char}
    (hc : isBlank c = true) : ¬(range.1 ≤ c.toNat ∧ c.toNat ≤ range.2) := by
  obtain ⟨blank, hm, hf, hl⟩ := exists_blankRange hc
  have hr := h blank hm
  omega

theorem inRanges_of_isBlank {ranges : List (Nat × Nat)} (h : ∀ range ∈ ranges, HasNoBlank range)
    {c : Char} (hc : isBlank c = true) : inRanges ranges c = false := by
  rw [inRanges, List.any_eq_false]
  intro range hm
  rw [Bool.and_eq_true, decide_eq_true_eq, decide_eq_true_eq]
  exact (h range hm).not_mem hc

theorem isWordChar_of_isBlank {c : Char} (h : isBlank c = true) : isWordChar c = false :=
  inRanges_of_isBlank (by decide +kernel) h

theorem isCased_of_isBlank {c : Char} (h : isBlank c = true) : isCased c = false :=
  inRanges_of_isBlank (by decide +kernel) h

theorem isCaseIgnorable_of_isBlank {c : Char} (h : isBlank c = true) :
    isCaseIgnorable c = false :=
  inRanges_of_isBlank (by decide +kernel) h

theorem shiftByRuns_cases (n : Nat) (runs : List CaseRun) :
    shiftByRuns n runs = n ∨
      ∃ run ∈ runs, run.first ≤ n ∧ n ≤ run.last ∧ shiftByRuns n runs = (n + run.shift).toNat := by
  induction runs with
  | nil => exact .inl rfl
  | cons run runs ih =>
    rw [shiftByRuns]
    split
    · next h =>
      simp only [Bool.and_eq_true, decide_eq_true_eq] at h
      exact .inr ⟨run, List.mem_cons_self, h.1.1, h.1.2, rfl⟩
    · rcases ih with h | ⟨other, hm, h⟩
      · exact .inl h
      · exact .inr ⟨other, List.mem_cons_of_mem _ hm, h⟩

theorem toNat_ofNat {n : Nat} (h : n.isValidChar) : (Char.ofNat n).toNat = n := by
  rw [Char.ofNat, dif_pos h]
  rfl

/-- A lowercase form is a character again, and none of those before the ASCII letters. -/
theorem le_toNat_shiftByRuns {c : Char} (h : 0x41 ≤ c.toNat) :
    0x41 ≤ (Char.ofNat (shiftByRuns c.toNat lowercaseRuns)).toNat := by
  have ht : ∀ run ∈ lowercaseRuns, 0x41 ≤ run.first + run.shift ∧ run.last + run.shift < 0xD800 ∨
      0xE000 ≤ run.first + run.shift ∧ run.last + run.shift < 0x110000 := by decide +kernel
  rcases shiftByRuns_cases c.toNat lowercaseRuns with hs | ⟨run, hm, hf, hl, hs⟩
  · rwa [hs, Char.ofNat_toNat]
  · have hr := ht run hm
    have hv : (shiftByRuns c.toNat lowercaseRuns).isValidChar := by
      rw [hs, Nat.isValidChar]
      omega
    rw [toNat_ofNat hv, hs]
    omega

theorem lowerChar_of_lt {c : Char} (h : c.toNat < 0x41) : lowerChar c = [c] := by
  rw [lowerChar, if_pos (by omega), toLower_eq_self (by omega)]

theorem le_of_mem_lowerChar {c : Char} (h : 0x41 ≤ c.toNat) :
    ∀ d ∈ lowerChar c, 0x41 ≤ d.toNat := by
  intro d hd
  unfold lowerChar at hd
  split at hd
  · obtain rfl := List.mem_singleton.mp hd
    by_cases hu : c.toNat ≤ 0x5A
    · rw [toNat_toLower h hu]
      omega
    · rwa [toLower_eq_self (by omega)]
  · split at hd
    · have hi : ∀ d ∈ ['i', '\u0307'], 0x41 ≤ d.toNat := by simp
      exact hi d hd
    · obtain rfl := List.mem_singleton.mp hd
      exact le_toNat_shiftByRuns h

theorem lowerChar_ne_nil (c : Char) : lowerChar c ≠ [] := by
  unfold lowerChar
  split
  · exact List.cons_ne_nil _ _
  · split
    · exact List.cons_ne_nil _ _
    · exact List.cons_ne_nil _ _

theorem lowerChar_of_isBlank {c : Char} (h : isBlank c = true) : lowerChar c = [c] := by
  have hu : HasNoBlank (0x41, 0x5A) := by decide
  have hi : HasNoBlank (0x130, 0x130) := by decide
  have ht : ∀ run ∈ lowercaseRuns, HasNoBlank (run.first, run.last) := by decide +kernel
  have hd : c ≠ 'İ' := by
    rintro rfl
    exact hi.not_mem h ⟨Nat.le_refl _, Nat.le_refl _⟩
  have hs : shiftByRuns c.toNat lowercaseRuns = c.toNat := by
    rcases shiftByRuns_cases c.toNat lowercaseRuns with hs | ⟨run, hm, hf, hl, -⟩
    · exact hs
    · exact absurd ⟨hf, hl⟩ ((ht run hm).not_mem h)
  rw [lowerChar, toLower_eq_self (hu.not_mem h), if_neg hd, hs, Char.ofNat_toNat, ite_self]

/-- What a text of one character more begins with in lower case. -/
theorem lowercaseAfter_cons (before : Text) (c : Char) (rest : Text) :
    ∃ form, lowercaseAfter before (c :: rest) = form ++ lowercaseAfter (c :: before) rest ∧
      form ≠ [] ∧ (c.toNat < 0x41 → form = [c]) ∧
      (0x41 ≤ c.toNat → ∀ d ∈ form, 0x41 ≤ d.toNat) := by
  refine ⟨_, rfl, ?_⟩
  split
  · next hc =>
    -- a capital sigma has one of two forms, and neither is among the first characters
    subst hc
    split
    · simp
    · simp
  · exact ⟨lowerChar_ne_nil c, lowerChar_of_lt, le_of_mem_lowerChar⟩

theorem head?_lowercaseAfter {s : Text} (h : ∀ c ∈ s.head?, isBlank c = true) (before : Text) :
    (lowercaseAfter before s).head? = s.head? := by
  cases s with
  | nil => rfl
  | cons c rest =>
    have hb := h c rfl
    have hc : c ≠ 'Σ' := by
      rintro rfl
      exact absurd hb (by decide)
    rw [lowercaseAfter, if_neg hc, lowerChar_of_isBlank hb]
    rfl

theorem startsCased_append {s t : Text} (ht : ∀ c ∈ t.head?, isBlank c = true) :
    startsCased (s ++ t) = startsCased s := by
  have hn : startsCased t = false := by
    unfold startsCased
    cases t with
    | nil => rfl
    | cons c rest =>
      have hb := ht c rfl
      rw [List.dropWhile_cons_of_neg (by simp [isCaseIgnorable_of_isBlank hb])]
      exact isCased_of_isBlank hb
  unfold startsCased at hn ⊢
  rw [List.dropWhile_append]
  cases s.dropWhile isCaseIgnorable with
  | nil => exact hn
  | cons c rest => rfl

/-- A blank hides what is behind it from the characters before it. -/
theorem lowercaseAfter_append {t : Text} (ht : ∀ c ∈ t.head?, isBlank c = true) (before s : Text) :
    lowercaseAfter before (s ++ t) =
      lowercaseAfter before s ++ lowercaseAfter (s.reverse ++ before) t := by
  induction s generalizing before with
  | nil => rfl
  | cons c rest ih =>
    rw [List.cons_append, lowercaseAfter, lowercaseAfter, startsCased_append ht, ih,
      List.append_assoc, List.reverse_cons, List.append_assoc, List.singleton_append]

/-- What is the same for both cases of every ASCII letter is the same for a character and its small
letter. -/
theorem apply_toLower {α : Type} {f : Char → α}
    (h : ∀ n < 26, f (Char.ofNat (0x61 + n)) = f (Char.ofNat (0x41 + n))) (c : Char) :
    f c.toLower = f c := by
  by_cases hc : 0x41 ≤ c.toNat ∧ c.toNat ≤ 0x5A
  · have hl := toNat_toLower hc.1 hc.2
    have hn := h (c.toNat - 0x41) (by omega)
    have hs : 0x61 + (c.toNat - 0x41) = c.toLower.toNat := by omega
    have hu : 0x41 + (c.toNat - 0x41) = c.toNat := by omega
    rwa [hs, hu, Char.ofNat_toNat, Char.ofNat_toNat] at hn
  · rw [toLower_eq_self hc]

/-- All that trims and lowercase forms depend on in a character. -/
structure Traits where
  isBlank : Bool
  isCased : Bool
  isCaseIgnorable : Bool
  isSigma : Bool
  form : Text
deriving DecidableEq

def traits (c : Char) : Traits := ⟨isBlank c, isCased c, isCaseIgnorable c, c = 'Σ', lowerChar c⟩

theorem traits_toLower (c : Char) : traits c.toLower = traits c :=
  apply_toLower (by decide +kernel) c

theorem isBlank_toLower (c : Char) : isBlank c.toLower = isBlank c :=
  congrArg Traits.isBlank (traits_toLower c)

theorem isCased_toLower (c : Char) : isCased c.toLower = isCased c :=
  congrArg Traits.isCased (traits_toLower c)

theorem isCaseIgnorable_toLower (c : Char) : isCaseIgnorable c.toLower = isCaseIgnorable c :=
  congrArg Traits.isCaseIgnorable (traits_toLower c)

theorem toLower_eq_sigma_iff (c : Char) : c.toLower = 'Σ' ↔ c = 'Σ' :=
  decide_eq_decide.mp (congrArg Traits.isSigma (traits_toLower c))

theorem lowerChar_toLower (c : Char) : lowerChar c.toLower = lowerChar c :=
  congrArg Traits.form (traits_toLower c)

theorem trim_map_toLower (s : Text) : trim (s.map Char.toLower) = (trim s).map Char.toLower :=
  strip_map isBlank_toLower s

theorem startsCased_map_toLower (s : Text) : startsCased (s.map Char.toLower) = startsCased s := by
  have hi : isCaseIgnorable ∘ Char.toLower = isCaseIgnorable := funext isCaseIgnorable_toLower
  unfold startsCased
  rw [List.dropWhile_map, hi]
  cases s.dropWhile isCaseIgnorable with
  | nil => rfl
  | cons c _ => exact isCased_toLower c

/-- The form of a capital sigma depends on its neighbours, but not on their ASCII case. -/
theorem lowercaseAfter_map_toLower (before s : Text) :
    lowercaseAfter (before.map Char.toLower) (s.map Char.toLower) = lowercaseAfter before s := by
  induction s generalizing before with
  | nil => rfl
  | cons c rest ih =>
    rw [List.map_cons, lowercaseAfter, lowercaseAfter, startsCased_map_toLower,
      startsCased_map_toLower, lowerChar_toLower, ← List.map_cons, ih]
    simp only [toLower_eq_sigma_iff]

theorem lowercase_map_toLower (s : Text) : lowercase (s.map Char.toLower) = lowercase s :=
  lowercaseAfter_map_toLower [] s

theorem lowercase_eq_of_equalsIgnoringAsciiCase {s t : Text}
    (h : equalsIgnoringAsciiCase s t = true) : lowercase s = lowercase t := by
  rw [← lowercase_map_toLower s, ← lowercase_map_toLower t, beq_iff_eq.mp h]

theorem equalsIgnoringAsciiCase_trim {s t : Text} (h : equalsIgnoringAsciiCase s t = true) :
    equalsIgnoringAsciiCase (trim s) (trim t) = true := by
  rw [equalsIgnoringAsciiCase, beq_iff_eq, ← trim_map_toLower, ← trim_map_toLower,
    beq_iff_eq.mp h]

end Text
end InstanceCatalog
