import InstanceCatalog.Proofs.Header
import InstanceCatalog.Proofs.Join.Columns

namespace InstanceCatalog

def ReadsAlike (header other : Text → Header) : Prop :=
  ∀ title, ∀ field ∈ Field.joined, (other title).field? = some field ↔
    (header title).field? = some field

/-- Rules for the tier field take no header from another field and give it none. -/
theorem HeaderRules.readsAlike_of_tier (rules : HeaderRules) {extra : HeaderRules}
    (h : ∀ rule ∈ extra, rule.field = .tier) :
    ReadsAlike rules.normalize (extra.foldl HeaderRules.withRule rules).normalize := by
  intro title field hf
  rw [foldl_withRule, field?_normalize_append]
  cases hr : (rules.normalize title).field? with
  | some found => rw [Option.some_or]
  | none =>
    rw [Option.none_or]
    constructor
    · intro he
      obtain ⟨rule, hm, rfl⟩ := exists_rule_of_field? he
      rw [h rule hm] at hf
      exact absurd hf (by decide)
    · rintro ⟨⟩

namespace ReadsAlike

variable {header other : Text → Header} {field : Field}

theorem lastColumn?_eq (h : ReadsAlike header other) (hf : field ∈ Field.joined)
    (headers : List Text) :
    LiveRow.lastColumn? other headers field = LiveRow.lastColumn? header headers field := by
  unfold LiveRow.lastColumn?
  simp only [h _ field hf]

theorem cell?_eq (h : ReadsAlike header other) (hf : field ∈ Field.joined) (table : Table)
    (row : List Text) :
    LiveRow.cell? other table row field = LiveRow.cell? header table row field := by
  rw [LiveRow.cell?, h.lastColumn?_eq hf, LiveRow.cell?]

theorem ofColumns?_eq (h : ReadsAlike header other) (headers : List Text) :
    TableKind.ofColumns? (ColumnMap.ofHeaders other headers) =
      TableKind.ofColumns? (ColumnMap.ofHeaders header headers) := by
  apply TableKind.ofColumns?_congr
  intro field hf
  rw [ColumnMap.has, ColumnMap.has, ColumnMap.ofHeaders_apply, ColumnMap.ofHeaders_apply,
    h.lastColumn?_eq hf]

theorem size_eq (h : ReadsAlike header other) (table : Table) (row : List Text) :
    LiveRow.size other table row = LiveRow.size header table row := by
  rw [LiveRow.size, h.cell?_eq (by decide), LiveRow.size]

theorem isLive_eq (h : ReadsAlike header other) (table : Table) (row : List Text) :
    LiveRow.isLive other table row = LiveRow.isLive header table row := by
  have hc : ∀ field ∈ Field.joined, LiveRow.lastColumn? other table.headers field =
      LiveRow.lastColumn? header table.headers field := fun field hf =>
    h.lastColumn?_eq hf table.headers
  unfold LiveRow.isLive
  simp only [List.any_cons, List.any_nil, h.size_eq, hc .size (by decide), hc .vcpu (by decide),
    hc .memory (by decide), hc .network (by decide)]

theorem toPartial_eq (h : ReadsAlike header other) (number : Text → Option Nat) (table : Table)
    (row : List Text) :
    LiveRow.toPartial ⟨other, number⟩ table row = LiveRow.toPartial ⟨header, number⟩ table row := by
  unfold LiveRow.toPartial
  rw [h.size_eq, h.cell?_eq (by decide), h.cell?_eq (by decide), h.cell?_eq (by decide)]

theorem step_eq (h : ReadsAlike header other) (number : Text → Option Nat) (table : Table) :
    LiveRow.step ⟨other, number⟩ table = LiveRow.step ⟨header, number⟩ table := by
  funext state row
  unfold LiveRow.step
  rw [h.isLive_eq, h.toPartial_eq]

/-- A table is joined alike, into any state. -/
theorem joinTable_eq (h : ReadsAlike header other) (number : Text → Option Nat) (state : JoinState)
    (table : Table) :
    Join.joinTable ⟨other, number⟩ state table = Join.joinTable ⟨header, number⟩ state table := by
  have hc := h.ofColumns?_eq table.headers
  cases hk : TableKind.ofColumns? (ColumnMap.ofHeaders header table.headers) with
  | none => rw [Join.joinTable_of_none (hc.trans hk), Join.joinTable_of_none hk]
  | some kind =>
    rw [Join.joinTable_of_kind (hc.trans hk), Join.joinTable_of_kind hk, h.step_eq number table]

theorem joinTables_eq (h : ReadsAlike header other) (number : Text → Option Nat)
    (tables : List Table) :
    Join.joinTables ⟨other, number⟩ tables = Join.joinTables ⟨header, number⟩ tables := by
  have hs : Join.joinTable ⟨other, number⟩ = Join.joinTable ⟨header, number⟩ := by
    funext state table
    exact h.joinTable_eq number state table
  rw [Join.joinTables, hs, Join.joinTables]

end ReadsAlike

namespace Document

/-- Rules for the tier field that are added to any rules change neither the records nor the counts
of any document, whatever reads its numbers. -/
theorem process_of_tier_rules (rules : HeaderRules) {extra : HeaderRules}
    (h : ∀ rule ∈ extra, rule.field = .tier) (number : Text → Option Nat) (document : Text) :
    process ⟨(extra.foldl HeaderRules.withRule rules).normalize, number⟩ document =
      process ⟨rules.normalize, number⟩ document := by
  have hr := HeaderRules.readsAlike_of_tier rules h
  rw [process, join, hr.joinTables_eq, process, join]

/-- A rule that claims every header no other rule claims. -/
theorem process_of_tier_rules_all_headers :
    (∀ rule ∈ [HeaderRule.allOf [] .tier], rule.field = .tier) ∧
      HeaderRules.standard.normalize "Notes".toList = .unrecognized "Notes".toList ∧
      ([HeaderRule.allOf [] .tier].foldl HeaderRules.withRule .standard).normalize
        "Notes".toList = .field .tier ∧
      process ⟨([HeaderRule.allOf [] .tier].foldl HeaderRules.withRule .standard).normalize,
          Amount.largest⟩
        "| Size | Notes | vCPU | RAM | Network bandwidth |\n| A | 9 | 2 | 8 | 1k |\n| B |".toList =
        ([⟨['A'], 2, 8, 1000⟩], ⟨1, 0, 1, 1⟩) := by
  have h : ∀ rule ∈ [HeaderRule.allOf [] .tier], rule.field = .tier := by decide
  exact ⟨h, by decide +kernel, by decide +kernel,
    (process_of_tier_rules .standard h Amount.largest _).trans (by decide +kernel)⟩

end Document
end InstanceCatalog
