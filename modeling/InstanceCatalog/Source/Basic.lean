import InstanceCatalog.Text.Basic

namespace InstanceCatalog

structure DocumentSource (m : Type → Type) where
  /-- The paths of the documents in ascending order, each once. -/
  discover : m (List Text)
  /-- The text of a document, if it can be read. -/
  fetch : Text → m (Option Text)

namespace DocumentSource

/-- The paths listed in several folders, in ascending order and each once. -/
def discoverIn [Monad m] (listFolder : Text → m (List Text)) (folders : List Text) :
    m (List Text) := do
  return Text.sortedSet (← folders.mapM listFolder).flatten

end DocumentSource
end InstanceCatalog
