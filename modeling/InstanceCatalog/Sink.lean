import InstanceCatalog.Csv.Format
import InstanceCatalog.Record

namespace InstanceCatalog

/-- A byte pipe that may refuse to grow beyond a limit. -/
structure Pipe where
  written : Bytes
  limit : Option Nat
deriving DecidableEq, Repr

namespace Pipe

def empty (limit : Option Nat) : Pipe := ⟨[], limit⟩

def fits (pipe : Pipe) (bytes : Bytes) : Bool :=
  match pipe.limit with
  | none => true
  | some limit => pipe.written.length + bytes.length ≤ limit

/-- Accepts all bytes or, when they would pass the limit, none of them. -/
def accept? (pipe : Pipe) (bytes : Bytes) : Option Pipe :=
  if pipe.fits bytes then some { pipe with written := pipe.written ++ bytes } else none

def refusal : Text := "limit reached".toList

end Pipe

structure Sink where
  pipe : Pipe
  buffer : Bytes
  rows : Nat
deriving DecidableEq, Repr

inductive SinkError
  /-- The buffer could not be handed over in the middle of the row of this size. -/
  | row (size : Text)
  | flush
deriving DecidableEq, Repr

namespace Sink

def capacity : Nat := 8192

def header : List Text :=
  ["Size".toList, "vC".toList, "Memory".toList, "Network Bandwidth".toList]

def recordFields (r : Record) : List Text :=
  [r.size, Text.ofNat r.vcpu, Text.ofNat r.memory, Text.ofNat r.network]

/-- Hands the buffer over. A refused buffer is kept as it is. -/
def flush? (sink : Sink) : Option Sink :=
  (sink.pipe.accept? sink.buffer).map fun pipe => { sink with pipe, buffer := [] }

/-- Adds a piece to the buffer, after handing over a buffer that has no room for it. -/
def push? (sink : Sink) (piece : Bytes) : Option Sink :=
  if sink.buffer.length + piece.length ≤ capacity then
    some { sink with buffer := sink.buffer ++ piece }
  else sink.flush?.map fun sink => { sink with buffer := piece }

/-- Adds pieces in turn. Also the state at which a refusal stopped is kept. -/
def pushAll (sink : Sink) : List Bytes → Sink × Bool
  | [] => (sink, true)
  | piece :: pieces =>
    match sink.push? piece with
    | none => (sink, false)
    | some sink => pushAll sink pieces

def create (pipe : Pipe) : Sink :=
  (pushAll ⟨pipe, [], 0⟩ (Csv.recordPieces (header.map Utf8.encode))).1

def writeRows (sink : Sink) : List Record → Sink × Option SinkError
  | [] =>
    match sink.flush? with
    | some sink => (sink, none)
    | none => (sink, some .flush)
  | r :: rest =>
    match sink.pushAll (Csv.recordPieces ((recordFields r).map Utf8.encode)) with
    | (sink, false) => (sink, some (.row r.size))
    | (sink, true) => writeRows { sink with rows := sink.rows + 1 } rest

/-- Writes a batch of records and hands it over. A row counts once it is in the buffer. -/
def writeAll (sink : Sink) (records : List Record) : Sink × Option SinkError :=
  sink.writeRows records

/-- Ends the output: everything that reached the pipe, or none if the rest is refused. -/
def finish? (sink : Sink) : Option Bytes := sink.flush?.map (·.pipe.written)

end Sink
end InstanceCatalog
