import InstanceCatalog.Command.Options
import InstanceCatalog.Failure

namespace InstanceCatalog

structure Tools (m : Type → Type) where
  /-- Starts the log, with the directive that holds where the environment has none. -/
  startLog : Text → m Unit
  /-- Formats a source file in place. A formatter that is missing or fails is no failure. -/
  format : Text → m Unit

def Tools.none [Monad m] : Tools m := ⟨fun _ => return (), fun _ => return ()⟩

inductive Outcome
  | success
  | failure (cause : Failure)
  | misuse
deriving DecidableEq, Repr

namespace Outcome

def exitCode : Outcome → Nat
  | success => 0
  | failure _ => 1
  | misuse => 2

def errorText? : Outcome → Option Text
  | failure cause => some ("Error: ".toList ++ cause.headline)
  | _ => none

def ofResult : Except Failure α → Outcome
  | .ok _ => success
  | .error cause => failure cause

def ofReading [Monad m] (run : α → m (Except Failure β)) : OptionReading α → m Outcome
  | .read options => return ofResult (← run options)
  | .help => return success
  | .misuse => return misuse

end Outcome
end InstanceCatalog
