import InstanceCatalog.Files.Basic
import InstanceCatalog.Settings
import InstanceCatalog.Source.Basic

namespace InstanceCatalog
namespace LocalSource

def folderPath (settings : Settings) (subfolder : Text) : Text :=
  Text.strip (· == '/') settings.sizesRoot ++ '/' :: subfolder

/-- The paths of the series documents among the entries of a folder. -/
def documentPaths (settings : Settings) (folder : Text) (entries : List DirectoryEntry) :
    List Text :=
  (entries.filter fun entry => entry.isFile && settings.isSeriesDocument entry.name).map
    fun entry => folder ++ '/' :: entry.name

/-- A folder that cannot be listed has no documents. -/
def listFolder [Monad m] (files : FileAccess m) (root : Text) (settings : Settings)
    (subfolder : Text) : m (List Text) := do
  let folder := folderPath settings subfolder
  match ← files.list (Path.join root folder) with
  | .ok entries => return documentPaths settings folder entries
  | .error _ => return []

def fetch [Monad m] (files : FileAccess m) (root path : Text) : m (Option Text) := do
  match ← files.readText (Path.join root path) with
  | .ok text => return some text
  | .error _ => return none

end LocalSource

def localSource [Monad m] (files : FileAccess m) (root : Text) (settings : Settings) :
    DocumentSource m where
  discover := DocumentSource.discoverIn (LocalSource.listFolder files root settings)
    settings.subfolders
  fetch := LocalSource.fetch files root

end InstanceCatalog
