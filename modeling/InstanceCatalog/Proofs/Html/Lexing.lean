import InstanceCatalog.Html.Lexer

namespace InstanceCatalog
namespace Html

theorem attributesFrom_eq_some {name : String} {place : AttributePlace}
    {found : List (String × Text)} {s rest : Text} {tag : Tag}
    (h : attributesFrom name place found s = some (tag, rest)) : tag.name = name ∧ rest <:+ s := by
  induction s generalizing place found with
  | nil => cases h
  | cons c s ih =>
    have hs : s <:+ c :: s := List.suffix_cons c s
    have hn : ∀ {place found}, attributesFrom name place found s = some (tag, rest) →
        tag.name = name ∧ rest <:+ c :: s := fun hr => (ih hr).imp_right (·.trans hs)
    unfold attributesFrom at h
    cases place <;> grind

theorem readTag_eq_some {s rest : Text} {tag : Tag} (h : readTag s = some (tag, rest)) :
    tag.name = tagName s ∧ rest <:+ s :=
  (attributesFrom_eq_some h).imp_right (·.trans (List.dropWhile_suffix _))

theorem skipPast_suffix (s : Text) : skipPast s <:+ s :=
  (List.drop_suffix 1 _).trans (List.dropWhile_suffix _)

theorem skipCommentEnd_suffix (s : Text) : skipCommentEnd s <:+ s := by
  induction s with
  | nil => exact List.suffix_rfl
  | cons c rest ih =>
    have hs : rest <:+ c :: rest := List.suffix_cons c rest
    unfold skipCommentEnd
    split
    · exact (List.drop_suffix 2 _).trans hs
    · split
      · exact (List.drop_suffix 3 _).trans hs
      · exact ih.trans hs

theorem skipComment_suffix (s : Text) : skipComment s <:+ s := by
  unfold skipComment
  split
  · exact List.suffix_cons _ _
  · exact (List.suffix_cons _ _).trans (List.suffix_cons _ _)
  · exact skipCommentEnd_suffix _

theorem readIdentifier_suffix (quote : Char) (s : Text) : (readIdentifier quote s).2.1 <:+ s := by
  unfold readIdentifier
  simp only
  split
  · exact List.nil_suffix
  · next c rest hd =>
    have hs := hd ▸ List.dropWhile_suffix (l := s) fun c => c != quote && c != '>'
    split
    · exact (List.suffix_cons c rest).trans hs
    · exact hs

theorem suffix_of_dropWhile_eq {p : Char → Bool} {s rest : Text} (h : s.dropWhile p = rest) :
    rest <:+ s := h ▸ List.dropWhile_suffix p

theorem endDoctype_suffix (d : Doctype) (wellFormedOnlyHere : Bool) (s : Text) :
    (endDoctype d wellFormedOnlyHere s).2 <:+ s := by
  unfold endDoctype
  split
  · exact List.nil_suffix
  · next hd => exact (skipPast_suffix _).trans (suffix_of_dropWhile_eq hd)

theorem readSystemId_suffix (d : Doctype) (required : Bool) (s : Text) :
    (readSystemId d required s).2 <:+ s := by
  unfold readSystemId
  split
  · exact List.nil_suffix
  · next c rest hd =>
    have hs := suffix_of_dropWhile_eq hd
    split
    · exact (endDoctype_suffix _ _ _).trans
        ((readIdentifier_suffix c rest).trans ((List.suffix_cons c rest).trans hs))
    · exact (endDoctype_suffix _ _ _).trans hs

theorem readPublicId_suffix (d : Doctype) (s : Text) : (readPublicId d s).2 <:+ s := by
  unfold readPublicId
  split
  · exact List.nil_suffix
  · next c rest hd =>
    have hs := suffix_of_dropWhile_eq hd
    have hi := (readIdentifier_suffix c rest).trans ((List.suffix_cons c rest).trans hs)
    split
    · simp only
      split
      · exact (readSystemId_suffix _ _ _).trans hi
      · exact (skipPast_suffix _).trans hi
    · exact (skipPast_suffix _).trans hs

theorem readDoctype_suffix (s : Text) : (readDoctype s).2 <:+ s := by
  unfold readDoctype
  split
  · exact List.nil_suffix
  · next c rest hd =>
    have hs := suffix_of_dropWhile_eq hd
    split
    · exact (List.suffix_cons c rest).trans hs
    · simp only
      generalize he : List.dropWhile isSpace _ = after
      have ha : after <:+ s :=
        (suffix_of_dropWhile_eq he).trans ((List.dropWhile_suffix _).trans hs)
      split
      · exact (readPublicId_suffix _ _).trans ((List.drop_suffix 6 _).trans ha)
      · split
        · exact (readSystemId_suffix _ _ _).trans ((List.drop_suffix 6 _).trans ha)
        · exact (endDoctype_suffix _ _ _).trans ha

theorem dropSemicolon_suffix (s : Text) : dropSemicolon s <:+ s := by
  unfold dropSemicolon
  split
  · exact List.suffix_cons _ _
  · exact List.suffix_rfl

theorem dropLoneReturn_suffix (s : Text) : dropLoneReturn s <:+ s := by
  unfold dropLoneReturn
  split
  · exact List.suffix_cons _ _
  · exact List.suffix_rfl

theorem numericReference?_suffix {s chars rest : Text}
    (h : numericReference? s = some (chars, rest)) : rest <:+ s := by
  unfold numericReference? at h
  split at h
  · next x tail =>
    split at h
    · simp only at h
      split at h
      · cases h
      · cases h
        exact (dropSemicolon_suffix _).trans
          ((List.dropWhile_suffix _).trans (List.suffix_cons x tail))
    · simp only at h
      split at h
      · cases h
      · cases h
        exact (dropSemicolon_suffix _).trans (List.dropWhile_suffix _)
  · cases h

theorem referenceOf_suffix {inAttribute : Bool} {s chars rest : Text}
    {longest : Option (Text × Text)} (h : referenceOf inAttribute s longest = some (chars, rest)) :
    rest <:+ s := by
  unfold referenceOf at h
  split at h
  · cases h
  · next name _ =>
    simp only at h
    split at h
    · cases h
      exact List.drop_suffix _ _
    · split at h
      · cases h
      · cases h
        exact (dropLoneReturn_suffix _).trans (List.drop_suffix _ _)

theorem readAmpersand_suffix (inAttribute : Bool) (s : Text) :
    (readAmpersand inAttribute s).2 <:+ s := by
  unfold readAmpersand
  simp only
  split
  · next tail =>
    cases hr : numericReference? tail with
    | none => exact dropLoneReturn_suffix ('#' :: tail)
    | some found => exact (numericReference?_suffix hr).trans (List.suffix_cons _ _)
  · cases hr : namedReference? inAttribute s with
    | none => exact dropLoneReturn_suffix s
    | some found => exact referenceOf_suffix hr

namespace Lexer

/-- What one step reads of a text: it leaves an end of the text, and only a `<` with a name behind it
is a start tag. -/
structure ReadsOf (lexed : Lexed) (s : Text) : Prop where
  suffix : lexed.rest <:+ s
  start : ∀ tag, .start tag ∈ lexed.tokens → ∃ behind, '<' :: behind <:+ s ∧ tag.name = tagName behind

theorem sectionText_suffix (s : Text) : (sectionText s).2 <:+ s := by
  induction s with
  | nil => exact List.suffix_rfl
  | cons c rest ih =>
    unfold sectionText
    split
    · exact (List.drop_suffix 2 _).trans (List.suffix_cons c rest)
    · exact ih.trans (List.suffix_cons c rest)

theorem dataToken_ne_start (c : Char) (tag : Tag) : dataToken c ≠ .start tag := by
  unfold dataToken
  split <;> simp

theorem declaration_suffix (inForeign : Bool) (s : Text) :
    (declaration inForeign s).rest <:+ s := by
  unfold declaration
  split
  · exact (skipComment_suffix _).trans (List.drop_suffix 2 s)
  · split
    · exact (readDoctype_suffix _).trans (List.drop_suffix 7 s)
    · split
      · exact (sectionText_suffix _).trans (List.drop_suffix 7 s)
      · exact skipPast_suffix s

theorem start_notMem_declaration (inForeign : Bool) (s : Text) (tag : Tag) :
    .start tag ∉ (declaration inForeign s).tokens := by
  unfold declaration
  split
  · simp
  · split
    · simp
    · split
      · intro hm
        obtain ⟨c, -, hc⟩ := List.mem_map.mp hm
        exact dataToken_ne_start c tag hc
      · simp [bogusComment]

theorem tagLexed_suffix (token : Tag → Token) (s : Text) : (tagLexed token s).rest <:+ s := by
  unfold tagLexed
  split
  · next hr => exact (readTag_eq_some hr).2
  · exact List.nil_suffix

theorem name_of_mem_tagLexed {s : Text} {tag : Tag} (h : .start tag ∈ (tagLexed .start s).tokens) :
    tag.name = tagName s := by
  unfold tagLexed at h
  split at h
  · next hr =>
    cases List.mem_singleton.mp h
    exact (readTag_eq_some hr).1
  · cases h

theorem start_notMem_tagLexed (s : Text) (tag : Tag) : .start tag ∉ (tagLexed .finish s).tokens := by
  unfold tagLexed
  split <;> simp

/-- What follows a `<`, where a start tag has the name that stands there. -/
theorem markup_reads (inForeign : Bool) (s : Text) :
    (markup inForeign s).rest <:+ s ∧
      ∀ tag, .start tag ∈ (markup inForeign s).tokens → tag.name = tagName s := by
  unfold markup
  split
  · next rest =>
    exact ⟨(declaration_suffix _ _).trans (List.suffix_cons _ _),
      fun tag hm => absurd hm (start_notMem_declaration _ _ tag)⟩
  · next rest =>
    split
    · exact ⟨List.nil_suffix, by simp⟩
    · next c after =>
      have hs : c :: after <:+ '/' :: c :: after := List.suffix_cons _ _
      split
      · exact ⟨(tagLexed_suffix _ _).trans hs, fun tag hm => absurd hm (start_notMem_tagLexed _ tag)⟩
      · split
        · exact ⟨(List.suffix_cons c after).trans hs, by simp⟩
        · exact ⟨(skipPast_suffix _).trans hs, by simp [bogusComment]⟩
  · exact ⟨skipPast_suffix _, by simp [bogusComment]⟩
  · split
    · exact ⟨tagLexed_suffix _ _, fun tag hm => name_of_mem_tagLexed hm⟩
    · exact ⟨List.suffix_rfl, by simp⟩
  · exact ⟨List.nil_suffix, by simp⟩

theorem rawStep_reads (element : String) (endable : Bool) (mode : LexMode) (c : Char) (rest : Text) :
    ReadsOf (rawStep element endable mode c rest) (c :: rest) := by
  have hs : rest <:+ c :: rest := List.suffix_cons c rest
  unfold rawStep
  split
  · exact ⟨(tagLexed_suffix _ _).trans ((List.drop_suffix 1 rest).trans hs),
      fun tag hm => absurd hm (start_notMem_tagLexed _ tag)⟩
  · exact ⟨hs, by simp [rawToken]⟩

theorem ampersand_reads (mode : LexMode) (c : Char) (rest : Text) :
    ReadsOf (ampersand mode rest) (c :: rest) :=
  ⟨(readAmpersand_suffix false rest).trans (List.suffix_cons c rest), by simp [ampersand]⟩

theorem next?_reads {mode : LexMode} {inForeign : Bool} {s : Text} {lexed : Lexed}
    (h : next? mode inForeign s = some lexed) : ReadsOf lexed s := by
  cases s with
  | nil => cases h
  | cons c rest =>
    have hs : rest <:+ c :: rest := List.suffix_cons c rest
    obtain rfl := Option.some.inj h
    cases mode with
    | data =>
      simp only
      split
      · next hc =>
        obtain ⟨hm, ht⟩ := markup_reads inForeign rest
        exact ⟨hm.trans hs, fun tag hn => ⟨rest, hc ▸ List.suffix_rfl, ht tag hn⟩⟩
      · split
        · exact ampersand_reads _ _ _
        · exact ⟨hs, fun tag hm => absurd (List.mem_singleton.mp hm).symm (dataToken_ne_start c tag)⟩
    | rcdata element =>
      simp only
      split
      · exact ampersand_reads _ _ _
      · exact rawStep_reads _ _ _ _ _
    | rawtext element => exact rawStep_reads _ _ _ _ _
    | script place => exact rawStep_reads _ _ _ _ _
    | plaintext => exact ⟨hs, by simp [rawToken]⟩

end Lexer
end Html
end InstanceCatalog
