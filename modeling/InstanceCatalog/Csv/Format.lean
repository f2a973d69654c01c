import InstanceCatalog.Text.Utf8

namespace InstanceCatalog
namespace Csv

def comma : UInt8 := 0x2C
def quote : UInt8 := 0x22
def lineFeed : UInt8 := 0x0A
def carriageReturn : UInt8 := 0x0D

def isLineBreak (b : UInt8) : Bool := b == lineFeed || b == carriageReturn

def needsQuotes (field : Bytes) : Bool :=
  field.any fun b => b == comma || b == quote || isLineBreak b

/-- The written form of a field, in pieces that are never torn apart: a doubled quote is one. -/
def fieldPieces (field : Bytes) : List Bytes :=
  if needsQuotes field then
    [quote] :: field.map (fun b => if b == quote then [quote, quote] else [b]) ++ [[quote]]
  else field.map ([·])

def fieldsPieces : List Bytes → List Bytes
  | [] => []
  | [field] => fieldPieces field
  | field :: fields => fieldPieces field ++ [comma] :: fieldsPieces fields

def recordPieces (fields : List Bytes) : List Bytes := fieldsPieces fields ++ [[lineFeed]]

def writeRecord (fields : List Bytes) : Bytes := (recordPieces fields).flatten

/-- Where a reader stands between two bytes. -/
inductive Place
  | recordStart
  | fieldStart
  | plain
  | quoted
  /-- After a quote in a quoted field: it ends the quoting or is the first of two. -/
  | afterQuote
deriving DecidableEq, Repr

/-- What a byte does to the record being read. -/
inductive Effect
  | keep
  | drop
  | endField
  | endRecord
deriving DecidableEq, Repr

def plainStep (b : UInt8) : Effect × Place :=
  if b == comma then (.endField, .fieldStart)
  else if isLineBreak b then (.endRecord, .recordStart)
  else (.keep, .plain)

def step (place : Place) (b : UInt8) : Effect × Place :=
  match place with
  | .recordStart =>
    if isLineBreak b then (.drop, .recordStart)
    else if b == quote then (.drop, .quoted) else plainStep b
  | .fieldStart => if b == quote then (.drop, .quoted) else plainStep b
  | .plain => plainStep b
  | .quoted => if b == quote then (.drop, .afterQuote) else (.keep, .quoted)
  | .afterQuote => if b == quote then (.keep, .quoted) else plainStep b

/-- Reads records from a place, with the bytes of the current field and the fields before it,
last first. A record that the end of the input cuts off counts as ended there. -/
def readFrom (place : Place) (field : Bytes) (fields : List Bytes) : Bytes → List (List Bytes)
  | [] =>
    match place with
    | .recordStart => []
    | _ => [(field.reverse :: fields).reverse]
  | b :: rest =>
    match step place b with
    | (.keep, next) => readFrom next (b :: field) fields rest
    | (.drop, next) => readFrom next field fields rest
    | (.endField, next) => readFrom next [] (field.reverse :: fields) rest
    | (.endRecord, next) => (field.reverse :: fields).reverse :: readFrom next [] [] rest

/-- The records of bytes; a byte order mark at their start does not count. -/
def readRecords (bytes : Bytes) : List (List Bytes) :=
  readFrom .recordStart [] [] (if Utf8.byteOrderMark.isPrefixOf bytes then bytes.drop 3 else bytes)

end Csv
end InstanceCatalog
