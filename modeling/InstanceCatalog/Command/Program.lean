import InstanceCatalog.Command.Generate
import InstanceCatalog.Command.Scrape

namespace InstanceCatalog

inductive Program
  | scraper
  | generator
deriving DecidableEq, Repr

namespace Program

def ofName? (name : Text) : Option Program :=
  if name = "vmscraper".toList then some scraper
  else if name = "generate".toList then some generator
  else none

def run [Monad m] (program : Program) (files : FileAccess m) (web : WebAccess m)
    (arguments : List Text) (tools : Tools m := .none) : m Outcome :=
  match program with
  | scraper => ScrapeCommand.command files web tools arguments
  | generator => Generate.command files tools arguments

end Program
end InstanceCatalog
