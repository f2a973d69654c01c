import InstanceCatalog.Html.Doctype
import InstanceCatalog.Html.Draft.Rules

namespace InstanceCatalog
namespace Html

namespace Draft

/-- The effect of one token. A document type counts only at the very start. -/
def accept (d : Draft) (t : Token) : Draft × Option LexMode :=
  match t with
  | .doctype doctype =>
    let d := { d with ignoreLineFeed := false }
    if d.mode = .initial then
      ({ d with oldStyle := doctype.isOldStyle, mode := .beforeHtml }, none)
    else (d, none)
  | _ => d.handle t

def acceptAll (d : Draft) (mode : LexMode) : List Token → Draft × LexMode
  | [] => (d, mode)
  | t :: rest =>
    let (d, raw) := d.accept t
    acceptAll d (raw.getD mode) rest

/-- Reads a text to its end. Each step of the lexer consumes a character, so the length of the
text bounds their number. -/
def readWithin : Nat → Draft → LexMode → Text → Draft
  | 0, d, _, _ => d
  | steps + 1, d, mode, s =>
    match Lexer.next? mode d.inForeign s with
    | none => d
    | some lexed =>
      let (d, mode) := d.acceptAll lexed.mode lexed.tokens
      readWithin steps d mode lexed.rest

/-- The nodes from a list of siblings on. Each step visits a node for the only time, so the
number of nodes bounds the depth. -/
def forestWithin (d : Draft) : Nat → List Nat → Forest
  | 0, _ | _, [] => .nil
  | steps + 1, id :: siblings =>
    let next := forestWithin d steps siblings
    match d.node? id with
    | none => next
    | some node =>
      let children := node.children.toList
      match node.kind with
      | .text reversed => .text reversed.reverse next
      | .element _ name => .element id name (forestWithin d steps children) next
      | .contents => .contents (forestWithin d steps children) next
      | .document | .comment => next

def toForest (d : Draft) : Forest :=
  match d.node? root with
  | none => .nil
  | some node => d.forestWithin (d.nodes.size + 1) node.children.toList

end Draft

def readDocument (s : Text) : Forest :=
  let s := Lexer.prepare s
  let d := Draft.readWithin (s.length + 1) .empty .data s
  (d.accept .eof).1.toForest

end Html
end InstanceCatalog
