import InstanceCatalog.Table.Basic
import InstanceCatalog.Text.Blank
import InstanceCatalog.Text.Lines

namespace InstanceCatalog
namespace PipeTable

def isPipeLine (line : Text) : Bool := line.head? == some '|'

/-- The maximal runs of consecutive pipe lines, in order. -/
def runs : List Text → List (List Text)
  | [] => []
  | line :: rest =>
    if isPipeLine line then
      match rest with
      | [] => [[line]]
      | next :: _ =>
        match isPipeLine next, runs rest with
        | true, run :: later => (line :: run) :: later
        | _, later => [line] :: later
    else runs rest

/-- The trimmed cells between the pipes of a line; pipes at the ends bound no cell. -/
def cells (line : Text) : List Text :=
  (List.splitOn '|' (Text.strip (· == '|') (Text.trim line))).map Text.trim

def isSeparatorChar (c : Char) : Bool := c == '-' || c == ':' || c == ' '

/-- Some cell has a dash and all cells consist of dashes, colons and spaces. -/
def isSeparator (line : Text) : Bool :=
  (cells line).any (·.contains '-') && (cells line).all (·.all isSeparatorChar)

def body : List Text → List Text
  | [] => []
  | line :: rest => if isSeparator line then rest else line :: rest

/-- The table of one run; a run without data lines is none. -/
def ofRun? : List Text → Option Table
  | [] => none
  | header :: rest =>
    let data := body rest
    if data.isEmpty then none else some ⟨cells header, data.map cells⟩

/-- The tables of a document. Blanks at the ends of lines do not count. -/
def tables (document : Text) : List Table :=
  (runs (Text.lines document)).filterMap fun run => ofRun? (run.map Text.trimEnd)

end PipeTable
end InstanceCatalog
