import InstanceCatalog.Text.Basic

namespace InstanceCatalog

/-- A header row and data rows of trimmed cells. A row may be shorter or longer than the header
row. -/
structure Table where
  headers : List Text
  rows : List (List Text)
deriving DecidableEq, Repr

end InstanceCatalog
