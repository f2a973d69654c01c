import InstanceCatalog.Proofs.Text.Words
import InstanceCatalog.Proofs.Web.DotSegments
import Mathlib.Data.List.Flatten

namespace InstanceCatalog
namespace WebUrl

def isControlOrBlank (c : Char) : Bool := c.toNat ≤ 0x20

def isTabOrLineBreak (c : Char) : Bool := c == '\t' || c == '\n' || c == '\r'

/-- A name that stands for itself in an address: reading the address drops, decodes and resolves
nothing of it. -/
structure IsLiteral (name : Text) : Prop where
  last : ∀ c ∈ name.getLast?, isControlOrBlank c = false
  unbroken : ∀ c ∈ name, isTabOrLineBreak c = false
  unmarked : '#' ∉ name
  unescaped : ¬HasEscape name
  /-- In a path a backslash is a slash; behind a `?` it is kept, and so are dots. -/
  unturned : '\\' ∉ name.takeWhile (· != '?')
  undotted : ∀ segment ∈ List.splitOn '/' (name.takeWhile (· != '?')),
    segment ≠ ['.', '.'] ∧ segment ≠ ['.']

/-- What an address keeps of the name at its end. -/
def kept (name : Text) : Text :=
  ((Text.dropEndWhile isControlOrBlank name).filter (!isTabOrLineBreak ·)).takeWhile (· != '#')

theorem kept_sublist (name : Text) : (kept name).Sublist name :=
  (List.takeWhile_prefix _).sublist.trans <| List.filter_sublist.trans
    (Text.dropEndWhile_prefix _ _).sublist

theorem kept_eq_self_iff (name : Text) :
    kept name = name ↔ (∀ c ∈ name.getLast?, isControlOrBlank c = false) ∧
      (∀ c ∈ name, isTabOrLineBreak c = false) ∧ '#' ∉ name := by
  constructor
  · intro h
    have hm : ∀ c ∈ name, c ≠ '#' ∧ isTabOrLineBreak c = false := by
      intro c hc
      rw [← h] at hc
      have hf := List.mem_filter.mp ((List.takeWhile_prefix _).subset hc)
      exact ⟨by simpa using List.mem_takeWhile_imp hc, by simpa using hf.2⟩
    refine ⟨fun c hc => ?_, fun c hc => (hm c hc).2, fun hc => (hm _ hc).1 rfl⟩
    have hs : (kept name).Sublist (Text.dropEndWhile isControlOrBlank name) :=
      (List.takeWhile_prefix _).sublist.trans List.filter_sublist
    have hd : name.rdropWhile isControlOrBlank = name := by
      rw [h] at hs
      exact (Text.dropEndWhile_prefix _ name).sublist.antisymm hs
    rw [List.rdropWhile_eq_self_iff] at hd
    have hn : name ≠ [] := by
      rintro rfl
      cases hc
    rw [List.getLast?_eq_some_getLast hn] at hc
    rw [← Option.some.inj hc]
    simpa using hd hn
  · rintro ⟨hl, hb, hm⟩
    have hf : name.filter (!isTabOrLineBreak ·) = name := by
      rw [List.filter_eq_self]
      intro c hc
      simp [hb c hc]
    rw [kept, Text.dropEndWhile_eq_self hl, hf, List.takeWhile_eq_self_iff]
    intro c hc
    rw [bne_iff_ne]
    rintro rfl
    exact hm hc

def segments (name : Text) : List Text :=
  resolveDots [] (List.splitOnP isSlash ((kept name).takeWhile (· != '?')))

def asked (name : Text) : Text :=
  List.intercalate ['/'] (segments name) ++ (kept name).dropWhile (· != '?')

theorem encode_sublist {s t : Text} (h : s.Sublist t) : (Utf8.encode s).Sublist (Utf8.encode t) :=
  h.flatMap Utf8.encodeChar

theorem length_encode_intercalate {pieces : List Text} (h : pieces ≠ []) :
    (Utf8.encode (List.intercalate ['/'] pieces)).length + 1 = segmentBytes pieces := by
  induction pieces with
  | nil => exact absurd rfl h
  | cons piece pieces ih =>
    by_cases hn : pieces = []
    · rw [hn, List.intercalate_singleton]
      rfl
    · have hs : (Utf8.encode ['/']).length = 1 := rfl
      rw [List.intercalate_cons_of_ne_nil hn, segmentBytes_cons, ← ih hn, Utf8.encode_append,
        Utf8.encode_append, List.length_append, List.length_append, hs]
      omega

/-- Both slashes are as long as the one that segments are joined with. -/
theorem segmentBytes_splitOnP (s : Text) :
    segmentBytes (List.splitOnP isSlash s) = (Utf8.encode s).length + 1 := by
  induction s with
  | nil => rfl
  | cons c rest ih =>
    rw [Utf8.encode_cons, List.length_append]
    by_cases hc : isSlash c = true
    · rw [List.splitOnP_cons_eq_if_modifyHead, if_pos hc]
      have hl : (Utf8.encodeChar c).length = 1 := by
        rcases Bool.or_eq_true_iff.mp hc with hc | hc <;> rw [beq_iff_eq.mp hc] <;> rfl
      rw [segmentBytes_cons, ih, hl]
      rfl
    · obtain ⟨piece, pieces, hs, hj⟩ := Text.exists_splitOnP_cons hc rest
      rw [hs, segmentBytes_cons] at ih
      rw [hj, segmentBytes_cons, Utf8.encode_cons, List.length_append]
      omega

/-- Nothing that is asked for is longer than what is kept, and each dot segment makes it shorter. -/
theorem length_encode_asked (name : Text) :
    (Utf8.encode (asked name)).length +
        (List.splitOnP isSlash ((kept name).takeWhile (· != '?'))).countP isDotSegment ≤
      (Utf8.encode (kept name)).length := by
  have hsplit := List.takeWhile_append_dropWhile (p := (· != '?')) (l := kept name)
  have hl := congrArg (fun t => (Utf8.encode t).length) hsplit
  simp only [Utf8.encode_append, List.length_append] at hl
  rw [asked, segments, Utf8.encode_append, List.length_append]
  generalize (kept name).takeWhile (· != '?') = path at hl
  have hn := resolveDots_ne_nil (List.splitOnP_ne_nil isSlash path) []
  have hj := length_encode_intercalate hn
  have hs := segmentBytes_splitOnP path
  have hr := segmentBytes_resolveDots_le (List.splitOnP isSlash path) []
  rw [segmentBytes_nil] at hr
  omega

theorem splitOnP_isSlash {s : Text} (h : '\\' ∉ s) :
    List.splitOnP isSlash s = List.splitOn '/' s := by
  apply Text.splitOnP_congr
  intro c hc
  have hb : c ≠ '\\' := by
    rintro rfl
    exact h hc
  simp [isSlash, hb]

/-- Joined with slashes, pieces hold no backslashes. -/
theorem notMem_of_intercalate_splitOnP {s : Text}
    (h : List.intercalate ['/'] (List.splitOnP isSlash s) = s) : '\\' ∉ s := by
  intro hm
  rw [← h] at hm
  rcases Text.mem_intercalate hm with he | ⟨piece, hp, hc⟩
  · cases he
  · have hn := Text.of_mem_splitOnP hp '\\' hc
    cases hn

theorem asked_of_isLiteral {name : Text} (h : IsLiteral name) : asked name = name := by
  have hk : kept name = name := (kept_eq_self_iff name).mpr ⟨h.last, h.unbroken, h.unmarked⟩
  have hd : ∀ segment ∈ List.splitOn '/' (name.takeWhile (· != '?')),
      isDotSegment segment = false := by
    intro segment hm
    have hi : segment <:+: name :=
      (Text.infix_of_mem_splitOn hm).trans (List.takeWhile_prefix _).isInfix
    have hs := isDotSegment_iff_of_not_hasEscape (mt (HasEscape.mono hi) h.unescaped)
    have hu := h.undotted segment hm
    rw [Bool.eq_false_iff, ne_eq, hs, not_or]
    exact hu
  rw [asked, segments, hk, splitOnP_isSlash h.unturned, resolveDots_eq_append hd,
    List.nil_append, List.intercalate_splitOn, List.takeWhile_append_dropWhile]

/-- The name is read back exactly when it is literal. -/
theorem percentDecode_asked_eq_iff (name : Text) :
    percentDecode (asked name) = Utf8.encode name ↔ IsLiteral name := by
  constructor
  · intro h
    -- no step of the way makes the bytes more, so none of them makes them fewer
    have hd := length_percentDecode (asked name)
    have ha := length_encode_asked name
    have hk := (encode_sublist (kept_sublist name)).length_le
    rw [h] at hd
    have hkept : kept name = name :=
      Utf8.encode_inj.mp ((encode_sublist (kept_sublist name)).eq_of_length (by omega))
    have hunescaped : ¬HasEscape (asked name) := fun he => by
      have hl := hd.2 he
      omega
    have hasked : asked name = name := by
      rw [percentDecode_of_not_hasEscape hunescaped] at h
      exact Utf8.encode_inj.mp h
    rw [hasked] at hunescaped
    have hdots : ∀ segment ∈ List.splitOnP isSlash (name.takeWhile (· != '?')),
        isDotSegment segment = false := by
      rw [hkept] at ha
      have hc := List.countP_eq_zero.mp (by omega : (List.splitOnP isSlash
        (name.takeWhile (· != '?'))).countP isDotSegment = 0)
      intro segment hm
      rw [Bool.eq_false_iff]
      exact hc segment hm
    have hslash : '\\' ∉ name.takeWhile (· != '?') := by
      apply notMem_of_intercalate_splitOnP
      rw [asked, segments, hkept, resolveDots_eq_append hdots, List.nil_append] at hasked
      have hsplit := List.takeWhile_append_dropWhile (p := (· != '?')) (l := name)
      exact List.append_cancel_right (hasked.trans hsplit.symm)
    obtain ⟨hlast, hunbroken, hunmarked⟩ := (kept_eq_self_iff name).mp hkept
    refine ⟨hlast, hunbroken, hunmarked, hunescaped, hslash, fun segment hm => ?_⟩
    rw [← splitOnP_isSlash hslash] at hm
    have hn := hdots segment hm
    constructor <;> rintro rfl <;> cases hn
  · intro h
    rw [asked_of_isLiteral h, percentDecode_of_not_hasEscape h.unescaped]

end WebUrl
end InstanceCatalog
