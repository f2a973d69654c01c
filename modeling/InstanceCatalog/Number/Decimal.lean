import InstanceCatalog.Text.Basic

namespace InstanceCatalog

/-- The number `digits / 10 ^ places`. -/
structure Decimal where
  digits : Nat
  places : Nat
deriving DecidableEq, Repr

namespace Decimal

def ofParts (whole fraction : Text) : Decimal :=
  ⟨Text.decimalValue (whole ++ fraction), fraction.length⟩

/-- Reads a numeral such as `12`, `1.5`, `5.` or `.5`; a lone point is none. -/
def read? (s : Text) : Option Decimal :=
  let whole := s.takeWhile Char.isDigit
  match s.dropWhile Char.isDigit with
  | [] => if whole.isEmpty then none else some (ofParts whole [])
  | c :: fraction =>
    if c = '.' && fraction.all Char.isDigit && !(whole.isEmpty && fraction.isEmpty)
    then some (ofParts whole fraction)
    else none

end Decimal
end InstanceCatalog
