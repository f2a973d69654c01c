import InstanceCatalog.Text.Basic

namespace InstanceCatalog.Text

def isHexDigit (c : Char) : Bool :=
  c.isDigit || ('a' ≤ c && c ≤ 'f') || ('A' ≤ c && c ≤ 'F')

def hexDigitValue (c : Char) : Nat :=
  if c.isDigit then c.toNat - 48 else c.toLower.toNat - 87

def hexValue (digits : Text) : Nat :=
  digits.foldl (fun value c => 16 * value + hexDigitValue c) 0

def digitIn? (radix : Nat) (c : Char) : Option Nat :=
  if isHexDigit c && hexDigitValue c < radix then some (hexDigitValue c) else none

def valueIn? (radix : Nat) (digits : Text) : Option Nat := do
  let values ← digits.mapM (digitIn? radix)
  return values.foldl (fun n d => radix * n + d) 0

end InstanceCatalog.Text
