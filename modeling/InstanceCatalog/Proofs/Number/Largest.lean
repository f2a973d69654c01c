import InstanceCatalog.Proofs.Number.Chunks

namespace InstanceCatalog
namespace Amount

inductive IsNumeral : Text → Prop
  | whole {digits} : digits ≠ [] → (∀ c ∈ digits, c.isDigit = true) → IsNumeral digits
  | point {whole places} : whole ≠ [] → (∀ c ∈ whole, c.isDigit = true) →
    places ≠ [] → (∀ c ∈ places, c.isDigit = true) → IsNumeral (whole ++ '.' :: places)

/-- Blanks or none, and a `k` at the end of a word. -/
def Marked (rest : Text) : Prop :=
  ∃ blanks after, rest = blanks ++ 'k' :: after ∧ (∀ c ∈ blanks, Text.isBlank c = true) ∧
    ∀ c ∈ after.head?, Text.isWordChar c = false

def Shorthand (s numeral : Text) : Prop :=
  IsNumeral numeral ∧ ∃ rest, s = numeral ++ rest ∧ Marked rest

theorem atWordEnd_iff {after : Text} :
    atWordEnd after = true ↔ ∀ c ∈ after.head?, Text.isWordChar c = false := by
  cases after with
  | nil => simp [atWordEnd]
  | cons c after => simp [atWordEnd]

theorem marked_iff {rest : Text} :
    Marked rest ↔ ∃ after, rest.dropWhile Text.isBlank = 'k' :: after ∧ atWordEnd after = true := by
  constructor
  · rintro ⟨blanks, after, rfl, hb, ha⟩
    have hk : Text.isBlank 'k' = false := rfl
    exact ⟨after, Text.dropWhile_append_of_stop hb (by simpa using hk), atWordEnd_iff.mpr ha⟩
  · rintro ⟨after, hr, ha⟩
    refine ⟨rest.takeWhile Text.isBlank, after, ?_, fun _ hc => List.mem_takeWhile_imp hc,
      atWordEnd_iff.mp ha⟩
    rw [← hr, List.takeWhile_append_dropWhile]

/-- A mark begins neither with a digit nor with a point. -/
theorem Marked.head?_of_mem {rest : Text} (h : Marked rest) {c : Char} (hc : c ∈ rest.head?) :
    c.isDigit = false ∧ c ≠ '.' := by
  obtain ⟨blanks, after, rfl, hb, -⟩ := h
  cases blanks with
  | nil =>
    obtain rfl : 'k' = c := by simpa using hc
    decide
  | cons b blanks =>
    obtain rfl : b = c := by simpa using hc
    have hbl := hb b List.mem_cons_self
    constructor
    · rw [Bool.eq_false_iff]
      intro hd
      rw [Text.isBlank_of_isDigit hd] at hbl
      cases hbl
    · rintro rfl
      cases hbl

theorem IsNumeral.digit_or_point {numeral : Text} (h : IsNumeral numeral) :
    ∀ c ∈ numeral, (c.isDigit || c == '.') = true := by
  intro c hc
  cases h with
  | whole _ hd => simp [hd c hc]
  | point _ hw _ hp =>
    rcases List.mem_append.mp hc with hc | hc
    · simp [hw c hc]
    · rcases List.mem_cons.mp hc with rfl | hc
      · rfl
      · simp [hp c hc]

/-- The numeral is all that comes before the first character that is neither digit nor point. -/
theorem Shorthand.eq_takeWhile {s numeral : Text} (h : Shorthand s numeral) :
    numeral = s.takeWhile fun c => c.isDigit || c == '.' := by
  obtain ⟨hn, rest, rfl, hm⟩ := h
  symm
  apply Text.takeWhile_append_of_stop hn.digit_or_point
  intro c hc
  obtain ⟨hd, hp⟩ := hm.head?_of_mem hc
  simp [hd, hp]

theorem Shorthand.unique {s a b : Text} (ha : Shorthand s a) (hb : Shorthand s b) : a = b :=
  ha.eq_takeWhile.trans hb.eq_takeWhile.symm

theorem fraction_of_ne_point {s : Text} (h : ∀ c ∈ s.head?, c ≠ '.') : fraction s = ([], s) := by
  cases s with
  | nil => rfl
  | cons c rest =>
    unfold fraction
    split
    · next he =>
      obtain ⟨rfl, -⟩ := List.cons.inj he
      exact absurd rfl (h '.' rfl)
    · rfl

theorem fraction_of_places {places rest : Text} (hn : places ≠ [])
    (hp : ∀ c ∈ places, c.isDigit = true) (hr : ∀ c ∈ rest.head?, c.isDigit = false) :
    fraction ('.' :: (places ++ rest)) = (places, rest) := by
  rw [fraction, Text.takeWhile_append_of_stop hp hr, Text.dropWhile_append_of_stop hp hr]
  simp [hn]

/-- Either nothing is consumed, or a point and all the digits that follow it. -/
theorem fraction_cases (s : Text) :
    fraction s = ([], s) ∨ ∃ places rest, s = '.' :: (places ++ rest) ∧ places ≠ [] ∧
      (∀ c ∈ places, c.isDigit = true) ∧ fraction s = (places, rest) := by
  unfold fraction
  split
  · next rest =>
    by_cases hn : rest.takeWhile Char.isDigit = []
    · simp [hn]
    · right
      refine ⟨rest.takeWhile Char.isDigit, rest.dropWhile Char.isDigit, ?_, hn,
        fun _ hc => List.mem_takeWhile_imp hc, ?_⟩
      · rw [List.takeWhile_append_dropWhile]
      · simp [hn]
  · exact .inl rfl

theorem thousands?_eq_some {s : Text} {d : Decimal} :
    thousands? s = some d ↔
      s.takeWhile Char.isDigit ≠ [] ∧ Marked (fraction (s.dropWhile Char.isDigit)).2 ∧
        d = .ofParts (s.takeWhile Char.isDigit) (fraction (s.dropWhile Char.isDigit)).1 := by
  rw [marked_iff, thousands?]
  generalize fraction (s.dropWhile Char.isDigit) = parts
  obtain ⟨places, rest⟩ := parts
  dsimp only
  split
  · next after he =>
    have hm : (∃ a, rest.dropWhile Text.isBlank = 'k' :: a ∧ atWordEnd a = true) ↔
        atWordEnd after = true := by simp [he]
    simp [hm, and_assoc, eq_comm (a := d)]
  · next hk =>
    simp only [reduceCtorEq, false_iff]
    rintro ⟨-, ⟨after, he, -⟩, -⟩
    exact hk after he

theorem thousands?_of_shorthand {s numeral : Text} (h : Shorthand s numeral) :
    thousands? s = some (.ofText numeral) := by
  obtain ⟨hn, rest, rfl, hm⟩ := h
  have hd : ∀ c ∈ rest.head?, c.isDigit = false := fun c hc => (hm.head?_of_mem hc).1
  rw [thousands?_eq_some]
  -- without places the mark follows the digits, and it begins with no point
  cases hn with
  | whole hn hw =>
    rw [Text.takeWhile_append_of_stop hw hd, Text.dropWhile_append_of_stop hw hd,
      fraction_of_ne_point fun c hc => (hm.head?_of_mem hc).2, Decimal.ofText_of_digits hw]
    refine ⟨hn, hm, ?_⟩
    rw [Decimal.ofParts, List.append_nil]
    rfl
  | @point whole places hn hw hp hpd =>
    have hs : ∀ c ∈ ('.' :: (places ++ rest)).head?, c.isDigit = false := by simp
    rw [List.append_assoc, List.cons_append, Text.takeWhile_append_of_stop hw hs,
      Text.dropWhile_append_of_stop hw hs, fraction_of_places hp hpd hd,
      Decimal.ofText_of_point hw hpd]
    exact ⟨hn, hm, rfl⟩

theorem exists_shorthand {s : Text} {d : Decimal} (h : thousands? s = some d) :
    ∃ numeral, Shorthand s numeral := by
  obtain ⟨hn, hm, -⟩ := thousands?_eq_some.mp h
  have hw : ∀ c ∈ s.takeWhile Char.isDigit, c.isDigit = true := fun _ hc =>
    List.mem_takeWhile_imp hc
  have hs := List.takeWhile_append_dropWhile (p := Char.isDigit) (l := s)
  rcases fraction_cases (s.dropWhile Char.isDigit) with hf | ⟨places, rest, ha, hp, hpd, hf⟩
  · rw [hf] at hm
    exact ⟨_, .whole hn hw, _, hs.symm, hm⟩
  · rw [hf] at hm
    refine ⟨_, .point hn hw hp hpd, rest, ?_, hm⟩
    rw [List.append_assoc, List.cons_append, ← ha, hs]

theorem thousands?_eq_none {s : Text} : thousands? s = none ↔ ∀ numeral, ¬ Shorthand s numeral := by
  constructor
  · intro h numeral hs
    rw [thousands?_of_shorthand hs] at h
    cases h
  · intro h
    rw [Option.eq_none_iff_forall_ne_some]
    intro d hd
    obtain ⟨numeral, hs⟩ := exists_shorthand hd
    exact h numeral hs

/-- What a text is read as: thousands, else the largest of the chunks that count. -/
inductive Reads (s : Text) : Option Nat → Prop
  | thousands {numeral} : Shorthand s numeral →
    Reads s (some ((Binary64.ofDecimal (.ofText numeral)).timesNat 1000).truncate)
  | largest {found n} : (∀ numeral, ¬ Shorthand s numeral) → Scans s found →
    n ∈ counted found → (∀ k ∈ counted found, k ≤ n) → Reads s (some n)
  | nothing {found} : (∀ numeral, ¬ Shorthand s numeral) → Scans s found →
    (∀ chunk ∈ found, 1 < chunk.count '.') → Reads s none

theorem counted_eq_nil {found : List Text} :
    counted found = [] ↔ ∀ chunk ∈ found, 1 < chunk.count '.' := by
  simp [counted]

/-- The text without the blanks at its ends, in lower case, is what `largest` reads. -/
theorem largest_reads (text : Text) :
    Reads (Text.lowercase (Text.trim text)) (largest text) := by
  rw [largest]
  generalize Text.lowercase (Text.trim text) = s
  cases ht : thousands? s with
  | some d =>
    obtain ⟨numeral, hs⟩ := exists_shorthand ht
    obtain rfl : Decimal.ofText numeral = d := by
      simpa [thousands?_of_shorthand hs] using ht
    exact .thousands hs
  | none =>
    have hn := thousands?_eq_none.mp ht
    have hs : Scans s (chunks s) := scans_iff.mpr rfl
    show Reads s ((chunks s).filterMap chunkValue?).max?
    rw [hs.filterMap_chunkValue?]
    cases hm : (counted (chunks s)).max? with
    | none => exact .nothing hn hs (counted_eq_nil.mp (List.max?_eq_none_iff.mp hm))
    | some n =>
      obtain ⟨hmem, hle⟩ := List.max?_eq_some_iff.mp hm
      exact .largest hn hs hmem hle

/-- A text is read as one thing only. -/
theorem Reads.unique {s : Text} {a b : Option Nat} (ha : Reads s a) (hb : Reads s b) : a = b := by
  -- a shorthand rules the other readings out, and those go by the one scan
  have hc : ∀ {f g : List Text}, Scans s f → Scans s g → f = g := fun hf hg =>
    hf.eq_chunks.trans hg.eq_chunks.symm
  cases ha with
  | thousands ha =>
    cases hb with
    | thousands hb => rw [ha.unique hb]
    | largest hn => exact absurd ha (hn _)
    | nothing hn => exact absurd ha (hn _)
  | largest hn hs hm hl =>
    cases hb with
    | thousands hb => exact absurd hb (hn _)
    | largest _ hs' hm' hl' =>
      obtain rfl := hc hs hs'
      exact congrArg some (Nat.le_antisymm (hl' _ hm) (hl _ hm'))
    | nothing _ hs' he =>
      obtain rfl := hc hs hs'
      rw [counted_eq_nil.mpr he] at hm
      cases hm
  | nothing hn hs he =>
    cases hb with
    | thousands hb => exact absurd hb (hn _)
    | largest _ hs' hm' _ =>
      obtain rfl := hc hs hs'
      rw [counted_eq_nil.mpr he] at hm'
      cases hm'
    | nothing => rfl

/-- The amount of a cell by its grammar. At most one numeral is a shorthand, there is one scan, and
integers that a binary number can hold count as themselves. -/
theorem largest_eq_iff_reads (text : Text) :
    (∀ amount, largest text = amount ↔ Reads (Text.lowercase (Text.trim text)) amount) ∧
      (∀ s a b, Shorthand s a → Shorthand s b → a = b) ∧
      (∀ s, ∃! found, Scans s found) ∧
      ∀ chunk : Text, (∀ c ∈ chunk, c.isDigit = true ∨ c = ',') →
        Text.decimalValue (chunk.filter (· != ',')) ≤ 2 ^ 53 →
        counted [chunk] = [Text.decimalValue (chunk.filter (· != ','))] := by
  refine ⟨fun amount => ⟨?_, (largest_reads text).unique⟩, fun _ _ _ => Shorthand.unique,
    fun s => ⟨chunks s, scans_iff.mpr rfl, fun _ => Scans.eq_chunks⟩, fun _ => counted_of_integer⟩
  rintro rfl
  exact largest_reads text

theorem largest_eq_iff_reads_sentence :
    Reads (Text.lowercase (Text.trim "16,000 (up to 25,000)".toList)) (some 25000) ∧
      Reads (Text.lowercase (Text.trim " 1.5 K".toList)) (some 1500) ∧
      (∀ numeral, Shorthand "1.5 k".toList numeral → numeral = "1.5".toList) ∧
      counted ["1,600,0,".toList] = [16000] := by
  obtain ⟨hr, -, -, hc⟩ := largest_eq_iff_reads "16,000 (up to 25,000)".toList
  obtain ⟨hk, hu, -, -⟩ := largest_eq_iff_reads " 1.5 K".toList
  refine ⟨(hr _).mp (by decide +kernel), (hk _).mp (by decide +kernel), ?_,
    hc _ (by simp) (by decide +kernel)⟩
  intro numeral hn
  apply hu _ _ _ hn
  have hp : IsNumeral ("1".toList ++ '.' :: "5".toList) :=
    .point (by simp) (by simp) (by simp) (by simp)
  have hb : Text.isBlank ' ' = true := rfl
  exact ⟨hp, " k".toList, rfl, [' '], [], rfl, by simpa using hb, by simp⟩

end Amount
end InstanceCatalog
