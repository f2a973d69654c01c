import InstanceCatalog.Json.Reader
import InstanceCatalog.Settings
import InstanceCatalog.Source.Basic
import InstanceCatalog.Web.Access

namespace InstanceCatalog

structure ListingEntry where
  kind : Text
  name : Text
  path : Text
deriving DecidableEq, Repr

namespace ListingEntry

def textOrEmpty? : Option JsonValue → Option Text
  | none => some []
  | some value => value.text?

/-- An entry is an object, or an array of its parts in order; parts may be left out and must
otherwise be strings. -/
def ofJson? : JsonValue → Option ListingEntry
  | .object members => do
    let part := fun name : String => textOrEmpty? (JsonValue.member? members name.toList)
    return ⟨← part "type", ← part "name", ← part "path"⟩
  | .array parts => do
    if 3 < parts.length then none
    return ⟨← textOrEmpty? parts[0]?, ← textOrEmpty? parts[1]?, ← textOrEmpty? parts[2]?⟩
  | _ => none

end ListingEntry

namespace RemoteSource

def contentsAddress (settings : Settings) (subfolder : Text) : Text :=
  Text.dropEndWhile (· == '/') settings.apiRoot ++ "/repos/".toList ++ settings.owner ++ '/' ::
    settings.repo ++ "/contents/".toList ++ Text.strip (· == '/') settings.sizesRoot ++ '/' ::
    subfolder

def rawAddress (settings : Settings) (path : Text) : Text :=
  Text.dropEndWhile (· == '/') settings.rawRoot ++ '/' :: settings.owner ++ '/' ::
    settings.repo ++ '/' :: settings.branch ++ '/' :: path.dropWhile (· == '/')

/-- The paths of the series documents in a listing. What is no listing has none, and an entry
that is malformed counts for nothing. -/
def documentPaths (settings : Settings) (listing : JsonValue) : List Text :=
  let entries := (listing.items?.getD []).filterMap ListingEntry.ofJson?
  (entries.filter fun entry =>
    entry.kind == "file".toList && settings.isSeriesDocument entry.name).map (·.path)

def getText [Monad m] (web : WebAccess m) (settings : Settings)
    (address accept : Text) : m (Option Text) := do
  match WebUrl.parse? address with
  | none => return none
  | some url => web.getText ⟨url, accept, settings.userAgent⟩

/-- A folder that cannot be listed has no documents. -/
def listFolder [Monad m] (web : WebAccess m) (settings : Settings) (subfolder : Text) :
    m (List Text) := do
  let body ← getText web settings (contentsAddress settings subfolder)
    "application/vnd.github+json".toList
  match body.bind Json.read? with
  | some listing => return documentPaths settings listing
  | none => return []

def fetch [Monad m] (web : WebAccess m) (settings : Settings) (path : Text) : m (Option Text) :=
  getText web settings (rawAddress settings path) "*/*".toList

/-- Whether a text can stand in the header of a request: no control characters but tabs. -/
def isHeaderText (s : Text) : Bool :=
  s.all fun c => c == '\t' || (0x20 ≤ c.toNat && c.toNat != 0x7F)

end RemoteSource

/-- The documents of the repository that the settings name. Requests need a user agent that can be
sent. -/
def remoteSource [Monad m] (web : WebAccess m) (settings : Settings) :
    Except Failure (DocumentSource m) :=
  if RemoteSource.isHeaderText settings.userAgent then
    .ok {
      discover := DocumentSource.discoverIn (RemoteSource.listFolder web settings)
        settings.subfolders
      fetch := RemoteSource.fetch web settings }
  else .error .buildingClient

end InstanceCatalog
