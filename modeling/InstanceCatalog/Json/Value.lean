import InstanceCatalog.Text.Basic

namespace InstanceCatalog

inductive JsonValue
  | null
  | bool (b : Bool)
  | number (written : Text)
  | string (s : Text)
  | array (items : List JsonValue)
  | object (members : List (Text × JsonValue))

namespace JsonValue

def items? : JsonValue → Option (List JsonValue)
  | array items => some items
  | _ => none

def text? : JsonValue → Option Text
  | string s => some s
  | _ => none

/-- The member of a name; of several with one name the last counts. -/
def member? (members : List (Text × JsonValue)) (name : Text) : Option JsonValue :=
  members.reverse.lookup name

end JsonValue
end InstanceCatalog
