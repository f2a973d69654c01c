import InstanceCatalog.Text.Blank
import Mathlib.Data.List.DropRight
import Mathlib.Data.List.TakeWhile

namespace InstanceCatalog
namespace Text

variable {p : Char → Bool}

theorem dropEndWhile_cons (c : Char) (s : Text) :
    dropEndWhile p (c :: s) =
      if dropEndWhile p s = [] then (if p c then [] else [c]) else c :: dropEndWhile p s := by
  simp only [dropEndWhile, List.reverse_cons, List.dropWhile_append, List.isEmpty_iff,
    List.reverse_eq_nil_iff]
  split
  · cases hp : p c <;> simp [hp]
  · simp

theorem dropEndWhile_idem (s : Text) : dropEndWhile p (dropEndWhile p s) = dropEndWhile p s :=
  List.rdropWhile_idempotent p s

/-- It does not matter which end is stripped first. -/
theorem dropWhile_dropEndWhile (s : Text) :
    (dropEndWhile p s).dropWhile p = dropEndWhile p (s.dropWhile p) := by
  induction s with
  | nil => rfl
  | cons c rest ih =>
    cases hc : p c with
    | true =>
      rw [List.dropWhile_cons_of_pos hc, ← ih, dropEndWhile_cons, if_pos hc]
      split
      · next hn => rw [hn]
      · rw [List.dropWhile_cons_of_pos hc]
    | false =>
      have hn : ¬ p c = true := by simp [hc]
      rw [List.dropWhile_cons_of_neg hn, dropEndWhile_cons, if_neg hn]
      split
      · rw [List.dropWhile_cons_of_neg hn]
      · rw [List.dropWhile_cons_of_neg hn]

theorem trim_trimEnd (s : Text) : trim (trimEnd s) = trim s := by
  rw [trim, strip, trimEnd, dropWhile_dropEndWhile, dropEndWhile_idem]
  rfl

theorem eq_dropEndWhile_append (s : Text) :
    ∃ zeros, s = dropEndWhile (· == '0') s ++ List.replicate zeros '0' := by
  refine ⟨(s.reverse.takeWhile (· == '0')).length, ?_⟩
  have hz : s.reverse.takeWhile (· == '0') =
      List.replicate (s.reverse.takeWhile (· == '0')).length '0' :=
    List.eq_replicate_of_mem fun c hc => by simpa using List.mem_takeWhile_imp hc
  have ha := congrArg List.reverse (s.reverse.takeWhile_append_dropWhile (p := (· == '0')))
  rw [List.reverse_append, List.reverse_reverse] at ha
  conv_lhs => rw [← ha, hz, List.reverse_replicate]
  rfl

theorem dropEndWhile_append (s t : Text) :
    dropEndWhile p (s ++ t) =
      if dropEndWhile p t = [] then dropEndWhile p s else s ++ dropEndWhile p t := by
  simp only [dropEndWhile, List.reverse_append, List.dropWhile_append, List.isEmpty_iff,
    List.reverse_eq_nil_iff]
  split
  · rfl
  · rw [List.reverse_append, List.reverse_reverse]

/-- Nothing is stripped in front of a character that stays. -/
theorem strip_append_cons {front : Text} {c : Char} (hf : ∀ x ∈ front, p x = false)
    (hc : p c = false) (back : Text) :
    strip p (front ++ c :: back) = front ++ c :: dropEndWhile p back := by
  have he : dropEndWhile p (c :: back) = c :: dropEndWhile p back := by
    rw [dropEndWhile_cons, hc, if_neg Bool.false_ne_true]
    split
    · next hn => rw [hn]
    · rfl
  have hd : (front ++ c :: back).dropWhile p = front ++ c :: back := by
    cases front with
    | nil => exact List.dropWhile_cons_of_neg (by simp [hc])
    | cons x front => exact List.dropWhile_cons_of_neg (by simp [hf x List.mem_cons_self])
  rw [strip, hd, dropEndWhile_append, he, if_neg (List.cons_ne_nil _ _)]

theorem strip_map {f : Char → Char} (h : ∀ c, p (f c) = p c) (s : Text) :
    strip p (s.map f) = (strip p s).map f := by
  have hp : p ∘ f = p := funext h
  simp only [strip, dropEndWhile, List.dropWhile_map, ← List.map_reverse, hp]

/-- What is stripped off does not count. -/
theorem strip_append_append {front back : Text} (hf : ∀ c ∈ front, p c = true)
    (hb : ∀ c ∈ back, p c = true) (s : Text) : strip p (front ++ s ++ back) = strip p s := by
  have hn : dropEndWhile p back = [] := List.rdropWhile_eq_nil_iff.mpr hb
  calc strip p (front ++ s ++ back)
      = (dropEndWhile p (front ++ s ++ back)).dropWhile p := (dropWhile_dropEndWhile _).symm
    _ = (dropEndWhile p (front ++ s)).dropWhile p := by rw [dropEndWhile_append, if_pos hn]
    _ = dropEndWhile p ((front ++ s).dropWhile p) := dropWhile_dropEndWhile _
    _ = strip p s := by rw [List.dropWhile_append_of_pos hf, strip]

theorem takeWhile_append_of_stop {α : Type} {p : α → Bool} {run rest : List α}
    (hr : ∀ x ∈ run, p x = true) (hs : ∀ x ∈ rest.head?, p x = false) :
    (run ++ rest).takeWhile p = run := by
  rw [List.takeWhile_append_of_pos hr]
  cases rest with
  | nil => simp
  | cons x rest => simp [hs x rfl]

theorem dropWhile_append_of_stop {α : Type} {p : α → Bool} {run rest : List α}
    (hr : ∀ x ∈ run, p x = true) (hs : ∀ x ∈ rest.head?, p x = false) :
    (run ++ rest).dropWhile p = rest := by
  rw [List.dropWhile_append_of_pos hr]
  cases rest with
  | nil => rfl
  | cons x rest => simp [hs x rfl]

theorem head?_dropWhile {α : Type} (p : α → Bool) (l : List α) :
    ∀ x ∈ (l.dropWhile p).head?, p x = false := by
  intro x hx
  have hn := List.head?_dropWhile_not p l
  rwa [hx] at hn

/-- A list begins with a gap up to the first start of a run, and the run as far as it goes; without
a run nothing follows the gap. -/
theorem exists_gap_run_rest {α : Type} (start p : α → Bool)
    (h : ∀ x, start x = true → p x = true) (l : List α) :
    ∃ gap run rest, l = gap ++ run ++ rest ∧ (∀ x ∈ gap, start x = false) ∧
      (∀ x ∈ run, p x = true) ∧ (∀ x ∈ run.head?, start x = true) ∧
      (∀ x ∈ rest.head?, p x = false) ∧ (run = [] → rest = []) := by
  have ha := head?_dropWhile (!start ·) l
  have hl := List.takeWhile_append_dropWhile (p := (!start ·)) (l := l)
  generalize l.dropWhile (!start ·) = ahead at ha hl
  have hr := List.takeWhile_append_dropWhile (p := p) (l := ahead)
  refine ⟨l.takeWhile (!start ·), ahead.takeWhile p, ahead.dropWhile p, ?_, ?_,
    fun _ hm => List.mem_takeWhile_imp hm, ?_, head?_dropWhile p ahead, ?_⟩
  · rw [List.append_assoc, hr, hl]
  · intro x hm
    simpa using List.mem_takeWhile_imp (p := (!start ·)) hm
  · -- the run begins where the gap ends
    intro x hm
    cases ahead with
    | nil => cases hm
    | cons y _ =>
      have hy : start y = true := by simpa using ha y rfl
      rw [List.takeWhile_cons_of_pos (h y hy)] at hm
      obtain rfl : y = x := by simpa using hm
      exact hy
  · intro hn
    cases ahead with
    | nil => rfl
    | cons y _ =>
      have hy : start y = true := by simpa using ha y rfl
      rw [List.takeWhile_cons_of_pos (h y hy)] at hn
      cases hn

theorem dropEndWhile_append_rtakeWhile (p : Char → Bool) (s : Text) :
    dropEndWhile p s ++ s.rtakeWhile p = s := List.rdropWhile_append_rtakeWhile

theorem dropEndWhile_prefix (p : Char → Bool) (s : Text) : dropEndWhile p s <+: s :=
  List.rdropWhile_prefix p s

/-- A text stands between what is stripped off in front and at the end. -/
theorem exists_strip (p : Char → Bool) (s : Text) :
    ∃ front back, s = front ++ strip p s ++ back ∧ (∀ c ∈ front, p c = true) ∧
      ∀ c ∈ back, p c = true := by
  refine ⟨s.takeWhile p, (s.dropWhile p).rtakeWhile p, ?_, fun _ => List.mem_takeWhile_imp,
    fun _ => List.mem_rtakeWhile_imp⟩
  rw [strip, List.append_assoc, dropEndWhile_append_rtakeWhile, List.takeWhile_append_dropWhile]

theorem head?_strip (p : Char → Bool) (s : Text) : ∀ c ∈ (strip p s).head?, p c = false := by
  intro c hc
  obtain ⟨rest, hr⟩ : strip p s <+: s.dropWhile p := dropEndWhile_prefix p _
  apply head?_dropWhile p s
  rw [← hr, List.head?_append, hc]
  rfl

/-- With more behind it a text is stripped to what it was stripped to, and goes on with what was
stripped off. -/
theorem exists_strip_append {s t : Text} (hs : strip p s ≠ []) (ht : ∀ c ∈ t.head?, p c = true) :
    ∃ rest, strip p (s ++ t) = strip p s ++ rest ∧ ∀ c ∈ rest.head?, p c = true := by
  have hd : s.dropWhile p ≠ [] := by
    intro hd
    rw [strip, hd] at hs
    exact hs rfl
  have ha : (s ++ t).dropWhile p = s.dropWhile p ++ t := by
    rw [List.dropWhile_append, if_neg (by simpa only [List.isEmpty_iff] using hd)]
  rw [strip, strip, ha, dropEndWhile_append]
  split
  · exact ⟨[], (List.append_nil _).symm, by simp⟩
  · refine ⟨(s.dropWhile p).rtakeWhile p ++ dropEndWhile p t, ?_, fun c hc => ?_⟩
    · rw [← List.append_assoc, dropEndWhile_append_rtakeWhile]
    · rw [List.head?_append] at hc
      rcases Option.or_eq_some_iff.mp hc with hc | ⟨-, hc⟩
      · exact List.mem_rtakeWhile_imp (List.mem_of_mem_head? hc)
      · obtain ⟨rest, hr⟩ := dropEndWhile_prefix p t
        apply ht
        rw [← hr, List.head?_append, hc]
        rfl

end Text
end InstanceCatalog
