import InstanceCatalog.Document
import InstanceCatalog.Failure
import InstanceCatalog.Scrape.Window
import InstanceCatalog.Sink
import InstanceCatalog.Source.Basic

namespace InstanceCatalog

structure ScrapeSummary where
  documents : Nat
  /-- The documents that could not be fetched. -/
  missing : Nat
  tables : Nat
  rows : Nat
deriving DecidableEq, Repr

structure Scrape where
  sink : Sink
  documents : Nat
  missing : Nat
  tables : Nat
deriving DecidableEq, Repr

namespace Scrape

/-- Output to a file has no limit of its own. -/
def initial : Scrape := ⟨Sink.create (.empty none), 0, 0, 0⟩

def summary (s : Scrape) : ScrapeSummary := ⟨s.documents, s.missing, s.tables, s.sink.rows⟩

def sinkFailure : SinkError → Failure
  | .row size => .writingRow size
  | .flush => .flushing .other

/-- Brings the file to what has reached the pipe; nothing is written when that is nothing new. -/
def save [Monad m] (files : FileAccess m) (output : Text) (before after : Bytes) :
    m (Except Failure Unit) := do
  if after.length = before.length then return .ok ()
  match ← files.write output after with
  | .ok () => return .ok ()
  | .error cause => return .error (.flushing cause)

/-- Adds a document; one that is missing only counts. -/
def addDocument (policies : Policies) (s : Scrape) : Option Text → Scrape × Option SinkError
  | none => ({ s with documents := s.documents + 1, missing := s.missing + 1 }, none)
  | some text =>
    let (records, stats) := Document.process policies text
    let (sink, error) := s.sink.writeAll records
    ({ s with sink, documents := s.documents + 1, tables := s.tables + stats.tables }, error)

/-- Adds a document and brings the file up to date. -/
def step [Monad m] (files : FileAccess m) (policies : Policies) (output : Text) (s : Scrape)
    (document : Option Text) : m (Except Failure Scrape) := do
  let (next, error) := s.addDocument policies document
  match error with
  | some error => return .error (sinkFailure error)
  | none =>
    match ← save files output s.sink.pipe.written next.sink.pipe.written with
    | .error failure => return .error failure
    | .ok () => return .ok next

/-- What is still in the buffer reaches the file at the end, if the file takes it. -/
def close [Monad m] (files : FileAccess m) (output : Text) (s : Scrape) : m Unit := do
  match s.sink.finish? with
  | none => return ()
  | some written =>
    let _ ← save files output s.sink.pipe.written written
    return ()

/-- Scrapes all documents of a source into a new file. The header row reaches the file at the end
at the latest. -/
def run [Monad m] (files : FileAccess m) (source : DocumentSource m) (policies : Policies)
    (output : Text) (concurrency : Nat) (schedule : Schedule) :
    m (Except Failure ScrapeSummary) := do
  let paths ← source.discover
  if paths.isEmpty then return .error .nothingDiscovered
  match ← files.write output [] with
  | .error cause => return .error (.creating output cause)
  | .ok () =>
    match ← Window.drain source.fetch concurrency schedule (step files policies output) paths
      initial with
    | .error failure => return .error failure
    | .ok s =>
      close files output s
      return .ok s.summary

end Scrape
end InstanceCatalog
