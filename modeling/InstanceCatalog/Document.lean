import InstanceCatalog.Join
import InstanceCatalog.Table.Locate

namespace InstanceCatalog
namespace Document

def join (policies : Policies) (document : Text) : JoinState :=
  Join.joinTables policies (Table.locate document)

def process (policies : Policies) (document : Text) : List Record × JoinStats :=
  let state := join policies document
  (state.accumulator.finish, state.stats)

end Document
end InstanceCatalog
