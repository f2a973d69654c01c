import InstanceCatalog.Html.Draft.Formatting
import InstanceCatalog.Html.Lexer

namespace InstanceCatalog
namespace Html

/-- What happens after a rule: the token is used up, or another mode looks at it. -/
inductive Next
  | done
  | again (mode : Mode)
  /-- Looked at once more, now by the rules for the element that is current then. -/
  | anew
  /-- Used up, and the lexer goes on in a raw mode. -/
  | raw (mode : LexMode)
deriving DecidableEq, Repr

abbrev Step := Draft × Next

namespace Draft

def done (d : Draft) : Step := (d, .done)

/-- Opens an element that only its own end tag ends. -/
def openRaw (d : Draft) (name : String) (mode : LexMode) : Step :=
  ({ d.openTag name with returnMode := d.mode, mode := .text }, .raw mode)

def metadata : List String := ["base", "basefont", "bgsound", "link", "meta"]

/-- Elements that the rules of the head handle wherever they stand. -/
def headNames : List String :=
  metadata ++ ["noframes", "script", "style", "template", "title"]

def openTemplate (d : Draft) : Draft :=
  let d := (d.openTag "template").withMarker.noFrameset
  { d with mode := .inTemplate, templateModes := .inTemplate :: d.templateModes }

def closeTemplate (d : Draft) : Draft :=
  if d.hasOpen "template" then
    let d := ((d.closeImplied thoroughEnds).popThrough ["template"]).clearToMarker
    let d := { d with templateModes := d.templateModes.drop 1 }
    d.withMode d.resetMode
  else d

def inHead (d : Draft) (t : Token) : Step :=
  let otherwise : Step := (d.pop, .again .afterHead)
  match t with
  | .char c => if isSpace c then (d.insertChar c).done else otherwise
  | .comment => d.insertComment.done
  | .start tag =>
    let name := tag.name
    if name == "html" || name == "head" then d.done
    else if metadata.contains name then (d.insertVoid name).done
    else if name == "title" then d.openRaw name (.rcdata name)
    else if ["noframes", "style", "noscript"].contains name then d.openRaw name (.rawtext name)
    else if name == "script" then d.openRaw name (.script .plain)
    else if name == "template" then d.openTemplate.done
    else otherwise
  | .finish tag =>
    let name := tag.name
    if name == "head" then (d.pop.withMode .afterHead).done
    else if ["body", "html", "br"].contains name then otherwise
    else if name == "template" then d.closeTemplate.done
    else d.done
  | .nul | .eof => otherwise
  | .doctype _ => d.done

def initial (d : Draft) (t : Token) : Step :=
  let otherwise : Step := ({ d with oldStyle := true }, .again .beforeHtml)
  match t with
  | .char c => if isSpace c then d.done else otherwise
  | .comment => (d.appendComment root).done
  | _ => otherwise

def beforeHtml (d : Draft) (t : Token) : Step :=
  let otherwise : Step := (d.openRoot, .again .beforeHead)
  match t with
  | .char c => if isSpace c then d.done else otherwise
  | .comment => (d.appendComment root).done
  | .start tag => if tag.name == "html" then (d.openRoot.withMode .beforeHead).done else otherwise
  | .finish tag =>
    if ["head", "body", "html", "br"].contains tag.name then otherwise else d.done
  | _ => otherwise

def openHead (d : Draft) : Draft :=
  let (d, id) := d.insertNew .html "head"
  { d with head := some id }

def beforeHead (d : Draft) (t : Token) : Step :=
  let otherwise : Step := (d.openHead, .again .inHead)
  match t with
  | .char c => if isSpace c then d.done else otherwise
  | .comment => d.insertComment.done
  | .start tag =>
    if tag.name == "html" then d.done
    else if tag.name == "head" then (d.openHead.withMode .inHead).done
    else otherwise
  | .finish tag =>
    if ["head", "body", "html", "br"].contains tag.name then otherwise else d.done
  | _ => otherwise

/-- Handles a token as the rules of the head do, with the head open for that time. -/
def backInHead (d : Draft) (t : Token) : Step :=
  match d.head with
  | none => d.done
  | some head =>
    let (d, next) := inHead { d with stack := head :: d.stack } t
    (d.closeElement head, next)

def afterHead (d : Draft) (t : Token) : Step :=
  let otherwise : Step := (d.openTag "body", .again .inBody)
  match t with
  | .char c => if isSpace c then (d.insertChar c).done else otherwise
  | .comment => d.insertComment.done
  | .start tag =>
    let name := tag.name
    if name == "html" || name == "head" then d.done
    else if name == "body" then ((d.openTag name).noFrameset.withMode .inBody).done
    else if name == "frameset" then ((d.openTag name).withMode .inFrameset).done
    else if headNames.contains name then d.backInHead t
    else otherwise
  | .finish tag =>
    if tag.name == "template" then d.inHead t
    else if ["body", "html", "br"].contains tag.name then otherwise
    else d.done
  | _ => otherwise

def inText (d : Draft) (t : Token) : Step :=
  match t with
  | .char c => (d.insertChar c).done
  | .eof => (d.pop, .again d.returnMode)
  | .finish _ => (d.pop.withMode d.returnMode).done
  | _ => d.done

end Draft
end Html
end InstanceCatalog
