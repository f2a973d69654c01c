import InstanceCatalog.Text.Blank
import InstanceCatalog.Text.Lowercase

namespace InstanceCatalog

inductive Field
  | size
  | vcpu
  | memory
  | network
  /-- Burst bandwidth, which only some vendors report. No standard rule names it. -/
  | tier
deriving DecidableEq, Repr

def Field.title : Field → Text
  | size => "Size".toList
  | vcpu => "vCPU".toList
  | memory => "Memory".toList
  | network => "Network Bandwidth".toList
  | tier => "Tier1 Bandwidth".toList

inductive Header
  | field (f : Field)
  /-- Text that no rule claims, trimmed. -/
  | unrecognized (text : Text)
deriving DecidableEq, Repr

def Header.field? : Header → Option Field
  | field f => some f
  | unrecognized _ => none

inductive Needles
  | anyOf (needles : List Text)
  | allOf (needles : List Text)
deriving DecidableEq, Repr

/-- No header holds one of no needles, and every header holds all of none. -/
def Needles.occurIn (lowered : Text) : Needles → Bool
  | anyOf needles => needles.any (Text.occursIn · lowered)
  | allOf needles => needles.all (Text.occursIn · lowered)

structure HeaderRule where
  needles : Needles
  field : Field
deriving DecidableEq, Repr

namespace HeaderRule

def anyOf (needles : List Text) (field : Field) : HeaderRule :=
  ⟨.anyOf (needles.map Text.lowercase), field⟩

def allOf (needles : List Text) (field : Field) : HeaderRule :=
  ⟨.allOf (needles.map Text.lowercase), field⟩

def matchesText (rule : HeaderRule) (lowered : Text) : Bool :=
  rule.needles.occurIn lowered

end HeaderRule

/-- Rules in order of priority. -/
abbrev HeaderRules := List HeaderRule

namespace HeaderRules

def standard : HeaderRules :=
  [.anyOf ["size".toList] .size,
    .anyOf ["vcpu".toList, "vcpus".toList, "core".toList] .vcpu,
    .anyOf ["memory".toList, "ram".toList] .memory,
    .allOf ["network".toList, "bandwidth".toList] .network]

/-- Adds a rule that only sees the headers no earlier rule claims. -/
def withRule (rules : HeaderRules) (rule : HeaderRule) : HeaderRules := rules ++ [rule]

def normalize (rules : HeaderRules) (header : Text) : Header :=
  let trimmed := Text.trim header
  match rules.find? (·.matchesText (Text.lowercase trimmed)) with
  | some rule => .field rule.field
  | none => .unrecognized trimmed

end HeaderRules
end InstanceCatalog
