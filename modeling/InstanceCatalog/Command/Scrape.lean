import InstanceCatalog.Command.Basic
import InstanceCatalog.Scrape.Run
import InstanceCatalog.Source.Local
import InstanceCatalog.Source.Remote

namespace InstanceCatalog

structure ScrapeOptions where
  output : Text
  /-- A file of settings. -/
  config : Option Text
  /-- The root of local documents. -/
  localRoot : Option Text
  debug : Bool
deriving DecidableEq, Repr

namespace ScrapeOptions

def rules : List OptionRule := [
  ⟨"output".toList, some 'o', .path⟩,
  ⟨"config".toList, some 'c', .path⟩,
  ⟨"local".toList, none, .path⟩,
  ⟨"debug".toList, none, .flag⟩]

def ofFound (found : FoundOptions) : ScrapeOptions where
  output := (found.value? "output").getD "azure.csv".toList
  config := found.value? "config"
  localRoot := found.value? "local"
  debug := found.has "debug"

end ScrapeOptions

namespace ScrapeCommand

def source [Monad m] (files : FileAccess m) (web : WebAccess m) (settings : Settings) :
    Option Text → Except Failure (DocumentSource m)
  | some root => .ok (localSource files root settings)
  | none => remoteSource web settings

def run [Monad m] (files : FileAccess m) (web : WebAccess m) (options : ScrapeOptions) :
    m (Except Failure ScrapeSummary) := do
  match ← Settings.loadOrStandard files options.config with
  | .error failure => return .error failure
  | .ok settings =>
    match source files web settings options.localRoot with
    | .error failure => return .error failure
    | .ok source =>
      Scrape.run files source .standard options.output settings.concurrency .oldestFirst

def command [Monad m] (files : FileAccess m) (web : WebAccess m) (tools : Tools m)
    (arguments : List Text) : m Outcome :=
  let start found := do
    let options := ScrapeOptions.ofFound found
    tools.startLog (logDirective "error".toList options.debug)
    run files web options
  Outcome.ofReading start (FoundOptions.read ScrapeOptions.rules arguments)

end ScrapeCommand
end InstanceCatalog
