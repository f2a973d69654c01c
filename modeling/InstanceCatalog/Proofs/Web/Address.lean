import InstanceCatalog.Proofs.Web.Target

namespace InstanceCatalog
namespace WebUrl

/-- A scheme and a host that stand in an address as they are written. -/
structure PlainRoot where
  scheme : Text
  authority : Text
  isWeb : scheme.map Char.toLower = "http".toList ∨ scheme.map Char.toLower = "https".toList
  isPlain : ∀ c ∈ authority,
    isControlOrBlank c = false ∧ isSlash c = false ∧ isEndOfPath c = false
  isAuthority : (authority? authority).isSome

namespace PlainRoot

def text (root : PlainRoot) : Text := root.scheme ++ "://".toList ++ root.authority

variable (root : PlainRoot)

/-- A scheme is written in letters. -/
theorem le_of_mem_scheme {c : Char} (h : c ∈ root.scheme) : 0x41 ≤ c.toNat := by
  have hl : ("http".toList ++ "https".toList).all (0x41 ≤ ·.toNat) = true := by decide
  by_contra hc
  have hm : c ∈ root.scheme.map Char.toLower :=
    List.mem_map.mpr ⟨c, h, Text.toLower_eq_self (by omega)⟩
  have hw : c ∈ "http".toList ++ "https".toList := by
    rcases root.isWeb with hw | hw <;> rw [hw] at hm
    · exact List.mem_append_left _ hm
    · exact List.mem_append_right _ hm
  exact hc (of_decide_eq_true (List.all_eq_true.mp hl c hw))

theorem authority_ne_nil : root.authority ≠ [] := by
  intro h
  have hs := root.isAuthority
  rw [h] at hs
  revert hs
  decide

theorem of_mem_text {c : Char} (h : c ∈ root.text) :
    isControlOrBlank c = false ∧ isTabOrLineBreak c = false := by
  have hc : isControlOrBlank c = false := by
    rcases List.mem_append.mp h with h | h
    · rcases List.mem_append.mp h with h | h
      · have hl := root.le_of_mem_scheme h
        exact decide_eq_false (by omega)
      · have hm : "://".toList.all (!isControlOrBlank ·) = true := by decide
        simpa using List.all_eq_true.mp hm c h
    · exact (root.isPlain c h).1
  refine ⟨hc, ?_⟩
  have hb : ['\t', '\n', '\r'].all isControlOrBlank = true := by decide
  rw [Bool.eq_false_iff]
  intro ht
  have hm : c ∈ ['\t', '\n', '\r'] := by simpa [isTabOrLineBreak, or_assoc] using ht
  rw [List.all_eq_true.mp hb c hm] at hc
  cases hc

theorem cleaned_append (name : Text) :
    cleaned (root.text ++ '/' :: name) =
      root.text ++ '/' ::
        (Text.dropEndWhile isControlOrBlank name).filter (!isTabOrLineBreak ·) := by
  have hs : Text.strip isControlOrBlank (root.text ++ '/' :: name) =
      root.text ++ '/' :: Text.dropEndWhile isControlOrBlank name :=
    Text.strip_append_cons (fun c hc => (root.of_mem_text hc).1) (by decide) name
  have hf : root.text.filter (!isTabOrLineBreak ·) = root.text := by
    rw [List.filter_eq_self]
    intro c hc
    simp [(root.of_mem_text hc).2]
  have hc : ∀ s, cleaned s =
      (Text.strip isControlOrBlank s).filter (!isTabOrLineBreak ·) := by
    intro s
    rw [cleaned]
    congr 1
    funext c
    simp [isTabOrLineBreak, bne]
  rw [hc, hs, List.filter_append, hf, List.filter_cons_of_pos (by decide)]

theorem scheme?_append (rest : Text) :
    ∃ isSecure, scheme? (root.text ++ rest) =
      some (isSecure, '/' :: '/' :: (root.authority ++ rest)) := by
  have hs : ∀ c ∈ root.scheme, (c != ':') = true := by
    intro c hc
    have hl := root.le_of_mem_scheme hc
    rw [bne_iff_ne]
    rintro rfl
    exact absurd hl (by decide)
  have ht : root.text ++ rest = root.scheme ++ ':' :: '/' :: '/' :: (root.authority ++ rest) := by
    simp only [text, List.append_assoc]
    rfl
  have hh : ∀ c ∈ (':' :: '/' :: '/' :: (root.authority ++ rest)).head?, (c != ':') = false := by
    simp
  rw [scheme?, ht, Text.takeWhile_append_of_stop hs hh, Text.dropWhile_append_of_stop hs hh]
  rcases root.isWeb with hw | hw <;> rw [hw]
  · exact ⟨false, rfl⟩
  · exact ⟨true, rfl⟩

end PlainRoot

/-- Sets of ASCII characters other than percent signs and digits leave escapes as they are. -/
theorem keepsEscapes_of_contains {others : Text}
    (h : others.all (fun c => c != '%' && !Text.isHexDigit c) = true) :
    KeepsEscapes fun c => isBeyondPrint c || others.contains c := by
  intro c hc
  have hn : c ∉ others := by
    intro hm
    have ho := List.all_eq_true.mp h c hm
    rw [Bool.and_eq_true, bne_iff_ne, Bool.not_eq_true'] at ho
    obtain ⟨hp, hd⟩ := ho
    rcases hc with rfl | hc
    · exact hp rfl
    · rw [hd] at hc
      cases hc
  have hb : 0x20 ≤ c.toNat ∧ c.toNat ≤ 0x7E := by
    rcases hc with rfl | hc
    · decide
    · rcases hexDigitValue_cases hc with hc | hc | hc <;> omega
  have hp : isBeyondPrint c = false :=
    Bool.or_eq_false_iff.mpr ⟨decide_eq_false (by omega), decide_eq_false (by omega)⟩
  have ho : others.contains c = false := by
    rw [Bool.eq_false_iff, ne_eq, List.contains_iff_mem]
    exact hn
  exact Bool.or_eq_false_iff.mpr ⟨hp, ho⟩

theorem keepsEscapes_encodeInPath : KeepsEscapes encodeInPath :=
  keepsEscapes_of_contains (by decide)

theorem keepsEscapes_encodeInQuery : KeepsEscapes encodeInQuery :=
  keepsEscapes_of_contains (by decide)

theorem takeWhile_isEndOfPath (s : Text) :
    s.takeWhile (!isEndOfPath ·) = (s.takeWhile (· != '#')).takeWhile (· != '?') := by
  rw [List.takeWhile_takeWhile]
  congr 1
  funext c
  simp only [isEndOfPath, bne, Bool.not_or, Bool.decide_and, Bool.decide_eq_true]

theorem query_eq (s : Text) :
    (match s.dropWhile (!isEndOfPath ·) with
      | '?' :: rest => some (percentEncode encodeInQuery (rest.takeWhile (· != '#')))
      | _ => none) =
      ((s.takeWhile (· != '#')).dropWhile (· != '?')).tail?.map (percentEncode encodeInQuery) := by
  induction s with
  | nil => rfl
  | cons c rest ih =>
    by_cases hq : c = '?'
    · subst hq
      rfl
    · by_cases hm : c = '#'
      · subst hm
        rfl
      · have he : isEndOfPath c = false := by simp [isEndOfPath, hq, hm]
        rw [List.dropWhile_cons_of_pos (by simp [he]), ih,
          List.takeWhile_cons_of_pos (by simp [hm]), List.dropWhile_cons_of_pos (by simp [hq])]

structure Keeps (url : WebUrl) (name : Text) : Prop where
  path : url.path = (segments name).map (percentEncode encodeInPath)
  query : url.query =
    ((kept name).dropWhile (· != '?')).tail?.map (percentEncode encodeInQuery)

/-- Behind a plain root a name is always read. -/
theorem PlainRoot.exists_parse? (root : PlainRoot) (name : Text) :
    ∃ url, WebUrl.parse? (root.text ++ '/' :: name) = some url ∧ url.Keeps name := by
  obtain ⟨isSecure, hs⟩ := root.scheme?_append
    ('/' :: (Text.dropEndWhile isControlOrBlank name).filter (!isTabOrLineBreak ·))
  obtain ⟨⟨host, portNumber⟩, ha⟩ := Option.isSome_iff_exists.mp root.isAuthority
  have hn : ∀ c ∈ root.authority, (!(isSlash c || isEndOfPath c)) = true := by
    intro c hc
    obtain ⟨-, hs, he⟩ := root.isPlain c hc
    rw [hs, he]
    rfl
  have hd : ∀ rest, ('/' :: '/' :: (root.authority ++ rest)).dropWhile isSlash =
      root.authority ++ rest := by
    intro rest
    obtain ⟨c, tail, hc⟩ := List.exists_cons_of_ne_nil root.authority_ne_nil
    have hf : isSlash c = false := by
      refine (root.isPlain c ?_).2.1
      rw [hc]
      exact List.mem_cons_self
    have hr : ∀ x ∈ (root.authority ++ rest).head?, isSlash x = false := by
      rw [hc]
      rintro x ⟨⟩
      exact hf
    have hb : ['/', '/'].all isSlash = true := rfl
    exact Text.dropWhile_append_of_stop (List.all_eq_true.mp hb) hr
  have hh : ∀ rest, ∀ c ∈ ('/' :: rest).head?, (!(isSlash c || isEndOfPath c)) = false := by
    rintro rest c ⟨⟩
    rfl
  rw [parse?, root.cleaned_append, hs]
  simp only [Option.bind_eq_bind, Option.bind_some, hd, Text.takeWhile_append_of_stop hn (hh _), ha,
    Text.dropWhile_append_of_stop hn (hh _)]
  refine ⟨_, rfl, ?_, ?_⟩
  · rw [List.takeWhile_cons_of_pos (by decide), takeWhile_isEndOfPath]
    exact resolveDots_percentEncode keepsEscapes_encodeInPath _ []
  · rw [List.dropWhile_cons_of_pos (by decide)]
    exact query_eq _

theorem percentEncode_append (mustEncode : Char → Bool) (s t : Text) :
    percentEncode mustEncode (s ++ t) = percentEncode mustEncode s ++ percentEncode mustEncode t :=
  List.flatMap_append

theorem intercalate_map_percentEncode {mustEncode : Char → Bool} (h : mustEncode '/' = false)
    (pieces : List Text) :
    List.intercalate ['/'] (pieces.map (percentEncode mustEncode)) =
      percentEncode mustEncode (List.intercalate ['/'] pieces) := by
  have hs : percentEncode mustEncode ['/'] = ['/'] := by
    rw [percentEncode_cons, h]
    rfl
  induction pieces with
  | nil => rfl
  | cons piece pieces ih =>
    by_cases hn : pieces = []
    · rw [hn, List.map_singleton, List.intercalate_singleton, List.intercalate_singleton]
    · have hm : pieces.map (percentEncode mustEncode) ≠ [] := mt List.map_eq_nil_iff.mp hn
      rw [List.map_cons, List.intercalate_cons_of_ne_nil hm, List.intercalate_cons_of_ne_nil hn, ih,
        percentEncode_append, percentEncode_append, hs]

/-- The bytes that a server reads are those of a slash and of what is asked for. -/
theorem Keeps.percentDecode_target {url : WebUrl} {name : Text} (h : url.Keeps name) :
    percentDecode url.target = 0x2F :: percentDecode (asked name) := by
  have hpath := percentDecode_percentEncode keepsEscapes_encodeInPath
    (List.intercalate ['/'] (segments name))
  have hj : List.intercalate ['/'] ((segments name).map (percentEncode encodeInPath)) =
      percentEncode encodeInPath (List.intercalate ['/'] (segments name)) :=
    intercalate_map_percentEncode (by decide) _
  have hslash : ∀ s, percentDecode ('/' :: s) = 0x2F :: percentDecode s :=
    percentDecode_cons_of_ne (by decide)
  rw [target, h.path, h.query, hj, List.cons_append, hslash, asked]
  congr 1
  cases hd : (kept name).dropWhile (· != '?') with
  | nil => simpa using hpath
  | cons c rest =>
    have hc : c = '?' := by
      have hf := Text.head?_dropWhile (· != '?') (kept name) c (by rw [hd]; rfl)
      simpa using hf
    subst hc
    have hm : ∀ s, percentDecode ('?' :: s) = 0x3F :: percentDecode s :=
      percentDecode_cons_of_ne (by decide)
    simp only [List.tail?_cons, Option.map_some]
    rw [percentDecode_append_cons _ (by decide), percentDecode_append_cons _ (by decide), hpath, hm,
      hm, percentDecode_percentEncode keepsEscapes_encodeInQuery]

theorem Keeps.query_eq_none_iff {url : WebUrl} {name : Text} (h : url.Keeps name) :
    url.query = none ↔ '?' ∉ kept name := by
  have ht : ∀ l : Text, l.tail? = none ↔ l = [] := fun l => by cases l <;> simp
  rw [h.query, Option.map_eq_none_iff, ht, List.dropWhile_eq_nil_iff]
  constructor
  · intro h hm
    simpa using h '?' hm
  · intro h c hc
    rw [bne_iff_ne]
    rintro rfl
    exact h hc

end WebUrl
end InstanceCatalog
