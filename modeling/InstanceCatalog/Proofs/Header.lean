import InstanceCatalog.Header
import InstanceCatalog.Proofs.Text.Lowercase
import Mathlib.Data.List.Forall2

namespace InstanceCatalog
namespace HeaderRules

theorem foldl_withRule (rules extra : HeaderRules) : extra.foldl withRule rules = rules ++ extra := by
  induction extra generalizing rules with
  | nil => exact (List.append_nil rules).symm
  | cons rule extra ih =>
    rw [List.foldl_cons, ih, withRule, List.append_assoc, List.singleton_append]

/-- The first rule that matches names the field. -/
theorem field?_normalize (rules : HeaderRules) (header : Text) :
    (rules.normalize header).field? =
      (rules.find? (·.matchesText (Text.lowercase (Text.trim header)))).map (·.field) := by
  simp only [normalize]
  cases rules.find? (·.matchesText (Text.lowercase (Text.trim header))) <;> rfl

theorem field?_normalize_append (rules others : HeaderRules) (header : Text) :
    (HeaderRules.normalize (rules ++ others) header).field? =
      (rules.normalize header).field?.or (others.normalize header).field? := by
  rw [field?_normalize, field?_normalize, field?_normalize, List.find?_append, Option.map_or]

/-- A field that rules name is the field of one of them. -/
theorem exists_rule_of_field? {rules : HeaderRules} {header : Text} {field : Field}
    (h : (rules.normalize header).field? = some field) : ∃ rule ∈ rules, rule.field = field := by
  rw [field?_normalize, Option.map_eq_some_iff] at h
  obtain ⟨rule, hr, hf⟩ := h
  exact ⟨rule, List.mem_of_find?_eq_some hr, hf⟩

/-- A header that no rule claims is kept, trimmed. -/
theorem normalize_eq_elim (rules : HeaderRules) (header : Text) : rules.normalize header =
    (rules.normalize header).field?.elim (.unrecognized (Text.trim header)) .field := by
  simp only [normalize]
  cases rules.find? (·.matchesText (Text.lowercase (Text.trim header))) <;> rfl

theorem field?_normalize_singleton {rule : HeaderRule} {header : Text} {found : Field} :
    (normalize [rule] header).field? = some found ↔
      rule.matchesText (Text.lowercase (Text.trim header)) = true ∧ found = rule.field := by
  rw [field?_normalize, List.find?_singleton]
  cases rule.matchesText (Text.lowercase (Text.trim header)) with
  | false => simp
  | true => simp [eq_comm]

end HeaderRules

namespace HeaderRule

variable {needles others : List Text} {field : Field}

theorem matchesText_anyOf {lowered : Text} : (anyOf needles field).matchesText lowered = true ↔
    ∃ needle ∈ needles, Text.lowercase needle <:+: lowered := by
  simp only [anyOf, matchesText, Needles.occurIn, List.any_map, List.any_eq_true,
    Function.comp_apply, Text.occursIn_iff]

theorem matchesText_allOf {lowered : Text} : (allOf needles field).matchesText lowered = true ↔
    ∀ needle ∈ needles, Text.lowercase needle <:+: lowered := by
  simp only [allOf, matchesText, Needles.occurIn, List.all_map, List.all_eq_true,
    Function.comp_apply, Text.occursIn_iff]

abbrev SameWords : List Text → List Text → Prop :=
  List.Forall₂ fun needle other => Text.equalsIgnoringAsciiCase needle other = true

theorem map_lowercase_eq (h : SameWords needles others) :
    needles.map Text.lowercase = others.map Text.lowercase := by
  induction h with
  | nil => rfl
  | cons hc _ ih =>
    rw [List.map_cons, List.map_cons, ih, Text.lowercase_eq_of_equalsIgnoringAsciiCase hc]

/-- A rule, and one for the same field that asks for the same words in other ASCII case. -/
inductive Respelled : HeaderRule → HeaderRule → Prop
  | same (rule : HeaderRule) : Respelled rule rule
  | anyOf {needles others : List Text} (words : SameWords needles others) (field : Field) :
    Respelled (.anyOf needles field) (.anyOf others field)
  | allOf {needles others : List Text} (words : SameWords needles others) (field : Field) :
    Respelled (.allOf needles field) (.allOf others field)

theorem Respelled.eq {rule other : HeaderRule} (h : Respelled rule other) : rule = other := by
  cases h with
  | same => rfl
  | anyOf words field => rw [HeaderRule.anyOf, map_lowercase_eq words, HeaderRule.anyOf]
  | allOf words field => rw [HeaderRule.allOf, map_lowercase_eq words, HeaderRule.allOf]

end HeaderRule

namespace HeaderRules

theorem normalize_append_append (rules : HeaderRules) {front back : Text}
    (hf : ∀ c ∈ front, Text.isBlank c = true) (hb : ∀ c ∈ back, Text.isBlank c = true)
    (header : Text) : rules.normalize (front ++ header ++ back) = rules.normalize header := by
  have ht : Text.trim (front ++ header ++ back) = Text.trim header :=
    Text.strip_append_append hf hb header
  rw [normalize, ht, normalize]

theorem field?_normalize_respelled {rules others : HeaderRules} {header spelling : Text}
    (hr : List.Forall₂ HeaderRule.Respelled rules others)
    (hs : Text.equalsIgnoringAsciiCase header spelling = true) :
    (others.normalize spelling).field? = (rules.normalize header).field? := by
  have he : rules = others := by
    rw [← List.forall₂_eq_eq_eq]
    exact hr.imp fun _ _ h => h.eq
  rw [field?_normalize, field?_normalize, he,
    Text.lowercase_eq_of_equalsIgnoringAsciiCase (Text.equalsIgnoringAsciiCase_trim hs)]

/-- Rules of two lists in a row give the field that the first list gives, else the field that the
second one gives, else the trimmed header; one rule claims a header that holds some or all of its
words in lower case. Blanks around the header do not count, and neither does the case of ASCII
letters where a field is given. -/
theorem normalize_by_priority :
    (∀ (first second : HeaderRules) (header : Text),
      second.foldl withRule first = first ++ second ∧
      normalize (first ++ second) header =
        match first.normalize header, second.normalize header with
        | .field field, _ => .field field
        | .unrecognized _, .field field => .field field
        | .unrecognized _, .unrecognized _ => .unrecognized (Text.trim header)) ∧
    (∀ (needles : List Text) (field found : Field) (header : Text),
      ((normalize [.anyOf needles field] header).field? = some found ↔ found = field ∧
        ∃ needle ∈ needles, Text.lowercase needle <:+: Text.lowercase (Text.trim header)) ∧
      ((normalize [.allOf needles field] header).field? = some found ↔ found = field ∧
        ∀ needle ∈ needles, Text.lowercase needle <:+: Text.lowercase (Text.trim header))) ∧
    (∀ (rules : HeaderRules) (front header back : Text),
      (∀ c ∈ front, Text.isBlank c = true) → (∀ c ∈ back, Text.isBlank c = true) →
      rules.normalize (front ++ header ++ back) = rules.normalize header) ∧
    ∀ (rules others : HeaderRules) (header spelling : Text),
      List.Forall₂ HeaderRule.Respelled rules others →
      Text.equalsIgnoringAsciiCase header spelling = true →
      (others.normalize spelling).field? = (rules.normalize header).field? := by
  refine ⟨fun first second header => ⟨foldl_withRule first second, ?_⟩,
    fun needles field found header => ⟨?_, ?_⟩, ?_, ?_⟩
  · rw [normalize_eq_elim, field?_normalize_append]
    cases first.normalize header with
    | field field => rfl
    | unrecognized _ =>
      cases second.normalize header with
      | field field => rfl
      | unrecognized _ => rfl
  · rw [field?_normalize_singleton, HeaderRule.matchesText_anyOf, and_comm]
    rfl
  · rw [field?_normalize_singleton, HeaderRule.matchesText_allOf, and_comm]
    rfl
  · intro rules front header back hf hb
    exact normalize_append_append rules hf hb header
  · intro rules others header spelling hr hs
    exact field?_normalize_respelled hr hs

/-- A sigma is a final one behind the letter and in front of the blank, in either case of the
letter. -/
theorem normalize_by_priority_final_sigma :
    HeaderRules.normalize [.anyOf ["type".toList] .size]
        ("\u3000\t".toList ++ " Type ".toList ++ "\n".toList) =
      HeaderRules.normalize [.anyOf ["type".toList] .size] " Type ".toList ∧
    Text.equalsIgnoringAsciiCase "AΣ Type".toList "aΣ tYPe".toList = true ∧
    (HeaderRules.normalize [.anyOf [] .vcpu, .allOf ["AΣ".toList, "tYPE".toList] .size]
        "aΣ tYPe".toList).field? =
      (HeaderRules.normalize [.anyOf [] .vcpu, .allOf ["aΣ".toList, "type".toList] .size]
        "AΣ Type".toList).field? ∧
    (HeaderRules.normalize [.anyOf [] .vcpu, .allOf ["aΣ".toList, "type".toList] .size]
      "AΣ Type".toList).field? = some .size := by
  obtain ⟨-, -, hb, hc⟩ := normalize_by_priority
  refine ⟨hb _ _ _ _ (by simp [Text.isBlank]) (by simp [Text.isBlank]), rfl, hc _ _ _ _ ?_ rfl,
    by decide +kernel⟩
  exact .cons (.same _) (.cons (.allOf (.cons rfl (.cons rfl .nil)) .size) .nil)

end HeaderRules
end InstanceCatalog
