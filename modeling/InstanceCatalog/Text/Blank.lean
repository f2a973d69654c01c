import InstanceCatalog.Text.Basic

namespace InstanceCatalog.Text

/-- The Unicode property White_Space. -/
def isBlank (c : Char) : Bool :=
  let n := c.toNat
  (9 ≤ n && n ≤ 13) || n == 0x20 || n == 0x85 || n == 0xA0 || n == 0x1680 ||
    (0x2000 ≤ n && n ≤ 0x200A) || n == 0x2028 || n == 0x2029 || n == 0x202F || n == 0x205F ||
    n == 0x3000

def trimEnd (s : Text) : Text := dropEndWhile isBlank s

def trim (s : Text) : Text := strip isBlank s

/-- The maximal runs of characters that are not blank. -/
def words (s : Text) : List Text :=
  (List.splitOnP isBlank s).filter (fun word => !word.isEmpty)

end InstanceCatalog.Text
