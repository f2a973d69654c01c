import InstanceCatalog.Failure
import InstanceCatalog.Yaml.Reading

namespace InstanceCatalog

structure Settings where
  owner : Text
  repo : Text
  branch : Text
  /-- The directory of the size folders. -/
  sizesRoot : Text
  subfolders : List Text
  apiRoot : Text
  rawRoot : Text
  /-- What the names of series documents contain. -/
  suffix : Text
  timeoutSeconds : Nat
  /-- How many documents are fetched at once. -/
  concurrency : Nat
  userAgent : Text
deriving DecidableEq, Repr

namespace Settings

def standard : Settings where
  owner := "MicrosoftDocs".toList
  repo := "azure-compute-docs".toList
  branch := "main".toList
  sizesRoot := "articles/virtual-machines/sizes".toList
  subfolders := ["general-purpose".toList, "compute-optimized".toList, "memory-optimized".toList,
    "storage-optimized".toList, "gpu-accelerated".toList, "fpga-accelerated".toList]
  apiRoot := "https://api.github.com".toList
  rawRoot := "https://raw.githubusercontent.com".toList
  suffix := "-series.md".toList
  timeoutSeconds := 30
  concurrency := 4
  userAgent := "vmscraper/0.1.0".toList

/-- Whether a file of this name describes a series of sizes. -/
def isSeriesDocument (settings : Settings) (name : Text) : Bool :=
  ".md".toList.isSuffixOf name && Text.occursIn settings.suffix name

open Yaml (Node Reading)

/-- Settings that are left out keep their standard values. -/
def ofNode (node : Node) : Reading Settings := do
  let fields ← Reading.fields node
  let text := Reading.fieldD Reading.text fields
  let count := Reading.fieldD Reading.count fields
  return {
    owner := ← text "owner" standard.owner
    repo := ← text "repo" standard.repo
    branch := ← text "branch" standard.branch
    sizesRoot := ← text "sizes_root" standard.sizesRoot
    subfolders := ← Reading.fieldD (Reading.list Reading.text) fields "subfolders"
      standard.subfolders
    apiRoot := ← text "api_root" standard.apiRoot
    rawRoot := ← text "raw_root" standard.rawRoot
    suffix := ← text "suffix" standard.suffix
    timeoutSeconds := ← count "timeout_secs" standard.timeoutSeconds
    concurrency := ← count "concurrency" standard.concurrency
    userAgent := ← text "user_agent" standard.userAgent }

def ofText? (s : Text) : Option Settings := Yaml.read? ofNode s

def load [Monad m] (files : FileAccess m) (path : Text) : m (Except Failure Settings) := do
  match ← files.readText path with
  | .error cause => return .error (.readingConfig path cause)
  | .ok text =>
    match ofText? text with
    | some settings => return .ok settings
    | none => return .error (.parsingConfig path)

def loadOrStandard [Monad m] (files : FileAccess m) : Option Text → m (Except Failure Settings)
  | some path => load files path
  | none => return .ok standard

end Settings

/-- What is logged: everything from `base` up, and with `debug` also the programs' own details. -/
def logDirective (base : Text) (debug : Bool) : Text :=
  if debug then base ++ ",vmscraper=debug,generate=debug".toList else base

end InstanceCatalog
