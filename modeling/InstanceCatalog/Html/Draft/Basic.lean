import InstanceCatalog.Html.Forest
import InstanceCatalog.Html.Token

/-!
A draft is a document under construction: nodes that refer to each other by number, the open
elements, the active formatting elements and the mode that decides what a token means.
-/

namespace InstanceCatalog
namespace Html

inductive Namespace
  | html
  | svg
  | mathml
deriving DecidableEq, Repr

inductive NodeKind
  | document
  | element (space : Namespace) (name : String)
  /-- Characters, last one first. -/
  | text (reversed : Text)
  | comment
  | contents
deriving DecidableEq, Repr

structure DraftNode where
  kind : NodeKind
  parent : Option Nat
  children : Array Nat
deriving Repr

inductive Mode
  | initial
  | beforeHtml
  | beforeHead
  | inHead
  | afterHead
  | inBody
  | text
  | inTable
  | inTableText
  | inCaption
  | inColumnGroup
  | inTableBody
  | inRow
  | inCell
  | inSelect
  | inSelectInTable
  | inTemplate
  | afterBody
  | inFrameset
  | afterFrameset
  | afterAfterBody
  | afterAfterFrameset
deriving DecidableEq, Repr

/-- An active formatting element, or the start of a scope for them. -/
inductive FormatEntry
  | marker
  | element (id : Nat) (tag : Tag)
deriving DecidableEq, Repr

structure Draft where
  nodes : Array DraftNode
  /-- The open elements, the current one first. -/
  stack : List Nat
  /-- The active formatting elements, the newest first. -/
  formatting : List FormatEntry
  mode : Mode
  /-- The mode to return to after text. -/
  returnMode : Mode
  /-- The modes of the open templates, the innermost first. -/
  templateModes : List Mode
  head : Option Nat
  form : Option Nat
  framesetOk : Bool
  /-- Whether nodes that have no place in a table move in front of it. -/
  fostering : Bool
  oldStyle : Bool
  ignoreLineFeed : Bool
  /-- Characters in a table whose place is open, last one first. -/
  tableText : Text

namespace Draft

def root : Nat := 0

def empty : Draft where
  nodes := #[⟨.document, none, #[]⟩]
  stack := []
  formatting := []
  mode := .initial
  returnMode := .initial
  templateModes := []
  head := none
  form := none
  framesetOk := true
  fostering := false
  oldStyle := false
  ignoreLineFeed := false
  tableText := []

def node? (d : Draft) (id : Nat) : Option DraftNode := d.nodes[id]?

def element? (d : Draft) (id : Nat) : Option (Namespace × String) :=
  match d.node? id with
  | some ⟨.element space name, _, _⟩ => some (space, name)
  | _ => none

def isNamed (d : Draft) (id : Nat) (names : List String) : Bool :=
  match d.element? id with
  | some (.html, name) => names.contains name
  | _ => false

def parent? (d : Draft) (id : Nat) : Option Nat := (d.node? id).bind (·.parent)

def add (d : Draft) (kind : NodeKind) : Draft × Nat :=
  ({ d with nodes := d.nodes.push ⟨kind, none, #[]⟩ }, d.nodes.size)

def setParent (d : Draft) (id : Nat) (parent : Option Nat) : Draft :=
  { d with nodes := d.nodes.modify id fun n => { n with parent } }

def setChildren (d : Draft) (id : Nat) (change : Array Nat → Array Nat) : Draft :=
  { d with nodes := d.nodes.modify id fun n => { n with children := change n.children } }

def detach (d : Draft) (id : Nat) : Draft :=
  match d.parent? id with
  | none => d
  | some parent => (d.setChildren parent (·.filter (· != id))).setParent id none

def append (d : Draft) (parent id : Nat) : Draft :=
  ((d.detach id).setChildren parent (·.push id)).setParent id (some parent)

/-- The children with one more in front of a given one. -/
def insertIn (children : Array Nat) (sibling id : Nat) : Array Nat :=
  (children.toList.flatMap fun c => if c = sibling then [id, c] else [c]).toArray

def insertBefore (d : Draft) (sibling id : Nat) : Draft :=
  let d := d.detach id
  match d.parent? sibling with
  | none => d
  | some parent => (d.setChildren parent (insertIn · sibling id)).setParent id (some parent)

def extendText (d : Draft) (id : Nat) (c : Char) : Draft :=
  { d with nodes := d.nodes.modify id fun n =>
      match n.kind with
      | .text reversed => { n with kind := .text (c :: reversed) }
      | _ => n }

def isText (d : Draft) (id : Nat) : Bool :=
  match d.node? id with
  | some ⟨.text _, _, _⟩ => true
  | _ => false

def previousChild? (children : List Nat) (sibling : Nat) : Option Nat :=
  (children.takeWhile (· != sibling)).getLast?

inductive Place
  | lastIn (parent : Nat)
  | before (sibling : Nat)
deriving DecidableEq, Repr

def put (d : Draft) (place : Place) (id : Nat) : Draft :=
  match place with
  | .lastIn parent => d.append parent id
  | .before sibling => d.insertBefore sibling id

def nodeBefore? (d : Draft) : Place → Option Nat
  | .lastIn parent => (d.node? parent).bind (·.children.back?)
  | .before sibling => do
    let parent ← d.parent? sibling
    previousChild? (← d.node? parent).children.toList sibling

/-- Puts a character at a place; it joins a text that stands right in front of it. -/
def putChar (d : Draft) (place : Place) (c : Char) : Draft :=
  match d.nodeBefore? place with
  | some id =>
    if d.isText id then d.extendText id c
    else
      let (d, new) := d.add (.text [c])
      d.put place new
  | none =>
    let (d, new) := d.add (.text [c])
    d.put place new

def moveChildren (d : Draft) (source target : Nat) : Draft :=
  let children := match d.node? source with
    | some n => n.children
    | none => #[]
  let d := (d.setChildren source fun _ => #[]).setChildren target (· ++ children)
  children.foldl (fun d id => d.setParent id (some target)) d

end Draft
end Html
end InstanceCatalog
