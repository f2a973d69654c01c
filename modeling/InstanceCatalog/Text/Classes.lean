import InstanceCatalog.Text.Basic
import InstanceCatalog.Text.WordTable
import InstanceCatalog.Text.CaseTable
import InstanceCatalog.Text.PrintTable

namespace InstanceCatalog.Text

def inRanges (ranges : List (Nat × Nat)) (c : Char) : Bool :=
  ranges.any (fun r => r.1 ≤ c.toNat && c.toNat ≤ r.2)

/-- Letters, marks, decimal digits and connectors: what a word boundary lies beside. -/
def isWordChar (c : Char) : Bool := inRanges wordRanges c

def isCased (c : Char) : Bool := inRanges casedRanges c

def isCaseIgnorable (c : Char) : Bool := inRanges caseIgnorableRanges c

/-- The space is printable; every other blank and all controls and unassigned codes are not. -/
def isPrintable (c : Char) : Bool := c == ' ' || !inRanges hiddenRanges c

def isExtender (c : Char) : Bool := inRanges extenderRanges c

end InstanceCatalog.Text
