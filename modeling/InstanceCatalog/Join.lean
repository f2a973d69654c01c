import InstanceCatalog.Policies
import InstanceCatalog.Record
import InstanceCatalog.Table.Basic

namespace InstanceCatalog

/-- Which column, if any, holds a field. -/
abbrev ColumnMap := Field → Option Nat

namespace ColumnMap

def empty : ColumnMap := fun _ => none

def set (columns : ColumnMap) (field : Field) (column : Nat) : ColumnMap :=
  fun f => if f = field then some column else columns f

/-- Reads headers from left to right, the first of them in column `start`. -/
def extend (header : Text → Header) (columns : ColumnMap) (start : Nat) : List Text → ColumnMap
  | [] => columns
  | text :: rest =>
    let columns := match (header text).field? with
      | some field => columns.set field start
      | none => columns
    extend header columns (start + 1) rest

/-- The column of a field is the last one whose header means it. -/
def ofHeaders (header : Text → Header) (headers : List Text) : ColumnMap :=
  extend header empty 0 headers

def has (columns : ColumnMap) (field : Field) : Bool := (columns field).isSome

end ColumnMap

inductive TableKind
  /-- Sizes with processors or memory. -/
  | basics
  /-- Sizes with network bandwidth. -/
  | network
  | combined
deriving DecidableEq, Repr

namespace TableKind

def ofColumns? (columns : ColumnMap) : Option TableKind :=
  if columns.has .size then
    match columns.has .vcpu || columns.has .memory, columns.has .network with
    | true, true => some combined
    | true, false => some basics
    | false, true => some network
    | false, false => none
  else none

def hasBasics : TableKind → Bool
  | network => false
  | _ => true

def hasNetwork : TableKind → Bool
  | basics => false
  | _ => true

end TableKind

structure JoinStats where
  tables : Nat
  ignored : Nat
  rows : Nat
  skipped : Nat
deriving DecidableEq, Repr

def JoinStats.zero : JoinStats := ⟨0, 0, 0, 0⟩

structure JoinState where
  accumulator : Accumulator
  stats : JoinStats
deriving DecidableEq, Repr

def JoinState.initial : JoinState := ⟨.empty, .zero⟩

namespace Join

/-- The count of a row in the column of a field. -/
def value (number : Text → Option Nat) (columns : ColumnMap) (row : List Text) (field : Field) :
    Option Nat := do
  let column ← columns field
  let cell ← row[column]?
  number cell

def rowPartial (number : Text → Option Nat) (columns : ColumnMap) (kind : TableKind)
    (size : Text) (row : List Text) : Partial where
  size := size
  vcpu := if kind.hasBasics then value number columns row .vcpu else none
  memory := if kind.hasBasics then value number columns row .memory else none
  network := if kind.hasNetwork then value number columns row .network else none

/-- The size of a row; a row with fewer cells than headers or with a blank size has none. -/
def rowSize? (width sizeColumn : Nat) (row : List Text) : Option Text :=
  if row.length < width then none
  else match row[sizeColumn]? with
    | none => none
    | some cell => if (Text.trim cell).isEmpty then none else some (Text.trim cell)

def joinRow (number : Text → Option Nat) (columns : ColumnMap) (kind : TableKind)
    (width sizeColumn : Nat) (state : JoinState) (row : List Text) : JoinState :=
  match rowSize? width sizeColumn row with
  | none => { state with stats.skipped := state.stats.skipped + 1 }
  | some size =>
    { accumulator := state.accumulator.merge (rowPartial number columns kind size row)
      stats := { state.stats with rows := state.stats.rows + 1 } }

/-- Merges the rows of a table. A table of no kind is counted and contributes nothing. -/
def joinTable (policies : Policies) (state : JoinState) (table : Table) : JoinState :=
  let columns := ColumnMap.ofHeaders policies.header table.headers
  let counted := { state with stats.tables := state.stats.tables + 1 }
  match TableKind.ofColumns? columns with
  | none => { counted with stats.ignored := counted.stats.ignored + 1 }
  | some kind =>
    match columns .size with
    | none => counted
    | some sizeColumn =>
      table.rows.foldl (joinRow policies.number columns kind table.headers.length sizeColumn)
        counted

def joinTables (policies : Policies) (tables : List Table) : JoinState :=
  tables.foldl (joinTable policies) .initial

end Join
end InstanceCatalog
