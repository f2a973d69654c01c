import InstanceCatalog.Text.Basic

namespace InstanceCatalog.Text

/-- A line without the one carriage return that its line feed may bring along. -/
def dropReturn (line : Text) : Text :=
  match line.getLast? with
  | some '\r' => line.dropLast
  | _ => line

/-- Lines from the pieces between line feeds. What follows the last line feed is a line of its
own when it is not empty, and keeps its carriage returns. -/
def linesOfPieces : List Text → List Text
  | [] => []
  | [last] => if last.isEmpty then [] else [last]
  | piece :: pieces => dropReturn piece :: linesOfPieces pieces

def lines (s : Text) : List Text := linesOfPieces (List.splitOn '\n' s)

end InstanceCatalog.Text
