import InstanceCatalog.Header
import InstanceCatalog.Number.Amount

namespace InstanceCatalog

structure Policies where
  header : Text → Header
  number : Text → Option Nat

namespace Policies

def ofRules (rules : HeaderRules) : Policies := ⟨rules.normalize, Amount.largest⟩

def standard : Policies := ofRules .standard

end Policies
end InstanceCatalog
