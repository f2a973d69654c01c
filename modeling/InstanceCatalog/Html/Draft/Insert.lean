import InstanceCatalog.Html.Draft.Scope

namespace InstanceCatalog
namespace Html
namespace Draft

/-- The node that holds the contents of a template. -/
def contentsOf (d : Draft) (id : Nat) : Nat :=
  ((d.node? id).bind (·.children[0]?)).getD id

/-- The place in front of the innermost open table, inside a template if that is nearer. A table
without a parent leaves the end of the element around it. -/
def fosterPlace (d : Draft) : List Nat → Place
  | [] => .lastIn root
  | id :: outer =>
    if d.isNamed id ["template"] then .lastIn (d.contentsOf id)
    else if d.isNamed id ["table"] then
      if (d.parent? id).isSome then .before id
      else match outer with
        | [] => .lastIn id
        | above :: _ => .lastIn above
    else match outer with
      | [] => .lastIn id
      | _ :: _ => fosterPlace d outer

def placeIn (d : Draft) (target : Nat) : Place :=
  if d.fostering && d.isNamed target ["table", "tbody", "tfoot", "thead", "tr"] then
    d.fosterPlace d.stack
  else if d.isNamed target ["template"] then .lastIn (d.contentsOf target)
  else .lastIn target

def currentPlace (d : Draft) : Place := d.placeIn (d.current?.getD root)

/-- Makes an element without a place. A template gets the node of its contents at once. -/
def make (d : Draft) (space : Namespace) (name : String) : Draft × Nat :=
  let (d, id) := d.add (.element space name)
  if space = .html && name == "template" then
    let (d, contents) := d.add .contents
    (d.append id contents, id)
  else (d, id)

def insertOnly (d : Draft) (space : Namespace) (name : String) : Draft × Nat :=
  let (d, id) := d.make space name
  (d.put d.currentPlace id, id)

def insertNew (d : Draft) (space : Namespace) (name : String) : Draft × Nat :=
  let (d, id) := d.insertOnly space name
  ({ d with stack := id :: d.stack }, id)

def openTag (d : Draft) (name : String) : Draft := (d.insertNew .html name).1

def insertVoid (d : Draft) (name : String) : Draft := (d.insertOnly .html name).1

def insertChar (d : Draft) (c : Char) : Draft := d.putChar d.currentPlace c

def insertComment (d : Draft) : Draft :=
  let (d, id) := d.add .comment
  d.put d.currentPlace id

def appendComment (d : Draft) (parent : Nat) : Draft :=
  let (d, id) := d.add .comment
  d.append parent id

def openRoot (d : Draft) : Draft :=
  let (d, id) := d.add (.element .html "html")
  { d.append root id with stack := id :: d.stack }

def withMode (d : Draft) (mode : Mode) : Draft := { d with mode }

def withMarker (d : Draft) : Draft := { d with formatting := .marker :: d.formatting }

def noFrameset (d : Draft) : Draft := { d with framesetOk := false }

end Draft
end Html
end InstanceCatalog
