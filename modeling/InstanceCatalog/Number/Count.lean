namespace InstanceCatalog

attribute [local instance (high)] instPowNat

def greatestCount : Nat := 2 ^ (64 : Nat) - 1

end InstanceCatalog
