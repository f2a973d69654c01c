import InstanceCatalog.Text.Basic

namespace InstanceCatalog

structure Partial where
  size : Text
  vcpu : Option Nat
  memory : Option Nat
  network : Option Nat
deriving DecidableEq, Repr

structure Record where
  size : Text
  vcpu : Nat
  memory : Nat
  network : Nat
deriving DecidableEq, Repr

namespace Partial

/-- The counts of `newer` where it has them, those of `p` elsewhere. -/
def update (p newer : Partial) : Partial where
  size := p.size
  vcpu := newer.vcpu.or p.vcpu
  memory := newer.memory.or p.memory
  network := newer.network.or p.network

def complete? (p : Partial) : Option Record := do
  return ⟨p.size, ← p.vcpu, ← p.memory, ← p.network⟩

end Partial

/-- The partial records of one document, one for each size, in the order in which the sizes were
first seen. The index says at which place the record of a size stands. -/
structure Accumulator where
  records : List Partial
  index : List (Text × Nat)
deriving DecidableEq, Repr

namespace Accumulator

def empty : Accumulator := ⟨[], []⟩

def place? (acc : Accumulator) (size : Text) : Option Nat := acc.index.lookup size

/-- Updates the record of the partial's size, or adds it as the last one when the size is new. -/
def merge (newer : Partial) (acc : Accumulator) : Accumulator :=
  match acc.place? newer.size with
  | some place => { acc with records := acc.records.modify place (·.update newer) }
  | none => ⟨acc.records ++ [newer], (newer.size, acc.records.length) :: acc.index⟩

def get? (size : Text) (acc : Accumulator) : Option Partial := do
  acc.records[← acc.place? size]?

def length (acc : Accumulator) : Nat := acc.records.length

def isEmpty (acc : Accumulator) : Bool := acc.records.isEmpty

/-- The complete records; the others are dropped. -/
def finish (acc : Accumulator) : List Record := acc.records.filterMap Partial.complete?

end Accumulator
end InstanceCatalog
