import InstanceCatalog.Yaml.Token

namespace InstanceCatalog
namespace Yaml

inductive Node
  | scalar (anchor : Option Nat) (tag : Option Text) (style : ScalarStyle) (text : Text)
  | sequence (anchor : Option Nat) (items : List Node)
  | mapping (anchor : Option Nat) (pairs : List (Node × Node))
  | alias_ (anchor : Nat)

namespace Node

/-- What stands where a node is left out. -/
def missing : Node := .scalar none none .plain []

def anchor? : Node → Option Nat
  | scalar anchor .. | sequence anchor _ | mapping anchor _ => anchor
  | alias_ _ => none

mutual

/-- The node and all below it, in the order in which they begin. -/
def preorder : Node → List Node
  | .sequence anchor items => .sequence anchor items :: preorderItems items
  | .mapping anchor pairs => .mapping anchor pairs :: preorderPairs pairs
  | node => [node]

def preorderItems : List Node → List Node
  | [] => []
  | item :: items => preorder item ++ preorderItems items

def preorderPairs : List (Node × Node) → List Node
  | [] => []
  | (key, value) :: pairs => preorder key ++ preorder value ++ preorderPairs pairs

end

/-- How many marks delimit a node: a sequence or mapping has a beginning and an end. -/
def marks : Node → Nat
  | sequence .. | mapping .. => 2
  | _ => 1

end Node
end Yaml
end InstanceCatalog
