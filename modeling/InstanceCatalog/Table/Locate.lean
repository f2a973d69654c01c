import InstanceCatalog.Table.Markup
import InstanceCatalog.Table.Pipe

namespace InstanceCatalog
namespace Table

/-- Whether the start of a table tag stands somewhere in a text. -/
def mentionsTableTag (document : Text) : Bool :=
  Text.occursIn "<table".toList (document.map Char.toLower)

def locate (document : Text) : List Table :=
  PipeTable.tables document ++
    (if mentionsTableTag document then MarkupTable.tables document else [])

end Table
end InstanceCatalog
