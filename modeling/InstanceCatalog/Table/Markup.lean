import InstanceCatalog.Html.Document
import InstanceCatalog.Table.Basic
import InstanceCatalog.Text.Blank

namespace InstanceCatalog
namespace MarkupTable
open Html

/-- The parts of tables around a node. A node is in a head or body also when another table stands
between, but not across the border of a template. -/
structure Around where
  head : Bool
  body : Bool
deriving DecidableEq, Repr

namespace Around

def outside : Around := ⟨false, false⟩

def inside (around : Around) (name : String) : Around :=
  ⟨around.head || name == "thead", around.body || name == "tbody"⟩

end Around

def texts : Forest → List Text
  | .nil => []
  | .text s next => s :: texts next
  | .element _ _ children next => texts children ++ texts next
  | .contents children next => texts children ++ texts next

/-- The words inside a cell with single spaces between. Texts that touch are still apart. -/
def cellText (children : Forest) : Text :=
  List.intercalate [' '] ((texts children).flatMap Text.words)

/-- The cells of a row: its children that are header or data cells. -/
def cells : Forest → List Text
  | .nil => []
  | .text _ next => cells next
  | .element _ name children next =>
    if name == "th" || name == "td" then cellText children :: cells next else cells next
  | .contents _ next => cells next

structure Row where
  serial : Nat
  around : Around
  cells : List Text
deriving DecidableEq, Repr

/-- The rows among nodes and inside them that belong to the table around, in order. -/
def ownRows (around : Around) : Forest → List Row
  | .nil => []
  | .text _ next => ownRows around next
  | .element serial name children next =>
    let inner :=
      if name == "table" then []
      else
        let below := ownRows (around.inside name) children
        if name == "tr" then ⟨serial, around, cells children⟩ :: below else below
    inner ++ ownRows around next
  | .contents children next => ownRows .outside children ++ ownRows around next

/-- Which rows are the header row and the data rows. -/
def split (rows : List Row) : Option (Row × List Row) :=
  let head := rows.filter (·.around.head)
  let body := rows.filter (·.around.body)
  match head, rows with
  | first :: _, _ =>
    some (first, if body.isEmpty then rows.filter (!·.around.head) else body)
  | [], first :: rest => some (first, rest)
  | [], [] => none

/-- The table of its rows; none without header cells or without a data cell. -/
def ofRows? (rows : List Row) : Option Table :=
  match split rows with
  | none => none
  | some (header, data) =>
    let data := (data.map (·.cells)).filter (!·.isEmpty)
    if header.cells.isEmpty || data.isEmpty then none else some ⟨header.cells, data⟩

structure Found where
  serial : Nat
  rows : List Row
deriving DecidableEq, Repr

/-- All table elements among nodes and inside them. -/
def elements (around : Around) : Forest → List Found
  | .nil => []
  | .text _ next => elements around next
  | .element serial name children next =>
    let below := elements (around.inside name) children
    let inner :=
      if name == "table" then ⟨serial, ownRows (around.inside name) children⟩ :: below else below
    inner ++ elements around next
  | .contents children next => elements .outside children ++ elements around next

/-- The tables of a document in the order in which their elements were made. -/
def ofForest (forest : Forest) : List Table :=
  ((elements .outside forest).mergeSort fun s t => s.serial ≤ t.serial).filterMap
    fun found => ofRows? found.rows

def tables (document : Text) : List Table := ofForest (readDocument document)

end MarkupTable
end InstanceCatalog
