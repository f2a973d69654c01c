import InstanceCatalog.Html.Draft.Basic

namespace InstanceCatalog
namespace Html

/-- Elements whose text is ordinary content although they are not HTML. -/
def isTextPoint (element : Namespace × String) : Bool :=
  element.1 == .mathml && ["mi", "mo", "mn", "ms", "mtext"].contains element.2

/-- Elements that hold HTML although they are not HTML. -/
def isHtmlPoint (element : Namespace × String) : Bool :=
  element.1 == .svg && ["foreignObject", "desc", "title"].contains element.2

def headings : List String := ["h1", "h2", "h3", "h4", "h5", "h6"]

/-- Elements that end by themselves where their parent ends. -/
def impliedEnds : List String :=
  ["dd", "dt", "li", "option", "optgroup", "p", "rb", "rp", "rt", "rtc"]

/-- Also the parts of tables, for the end of a template. -/
def thoroughEnds : List String :=
  impliedEnds ++ ["caption", "colgroup", "tbody", "td", "tfoot", "th", "thead", "tr"]

/-- Elements that no stray end tag closes. -/
def specials : List String := [
  "address", "applet", "area", "article", "aside", "base", "basefont", "bgsound", "blockquote",
  "body", "br", "button", "caption", "center", "col", "colgroup", "dd", "details", "dir", "div",
  "dl", "dt", "embed", "fieldset", "figcaption", "figure", "footer", "form", "frame", "frameset",
  "h1", "h2", "h3", "h4", "h5", "h6", "head", "header", "hgroup", "hr", "html", "iframe", "img",
  "input", "isindex", "li", "link", "listing", "main", "marquee", "menu", "meta", "nav", "noembed",
  "noframes", "noscript", "object", "ol", "p", "param", "plaintext", "pre", "script", "section",
  "select", "source", "style", "summary", "table", "tbody", "td", "template", "textarea", "tfoot",
  "th", "thead", "title", "tr", "track", "ul", "wbr", "xmp"]

/-- Which elements hide those outside them from an end tag. -/
inductive Scope
  | standard
  | list
  | button
  | table
  | select
deriving DecidableEq, Repr

namespace Scope

def standardNames : List String :=
  ["applet", "caption", "html", "table", "td", "th", "marquee", "object", "template"]

def isStandardEnd (element : Namespace × String) : Bool :=
  (element.1 == .html && standardNames.contains element.2) || isTextPoint element ||
    isHtmlPoint element

def ends (scope : Scope) (element : Namespace × String) : Bool :=
  let isHtml := element.1 == .html
  match scope with
  | standard => isStandardEnd element
  | list => isStandardEnd element || (isHtml && ["ol", "ul"].contains element.2)
  | button => isStandardEnd element || (isHtml && element.2 == "button")
  | table => isHtml && ["html", "table", "template"].contains element.2
  | select => !(isHtml && ["optgroup", "option"].contains element.2)

end Scope

namespace Draft

def current? (d : Draft) : Option Nat := d.stack.head?

def currentIn (d : Draft) (names : List String) : Bool :=
  match d.current? with
  | some id => d.isNamed id names
  | none => false

def inForeign (d : Draft) : Bool :=
  match d.current?.bind d.element? with
  | some (space, _) => space != .html
  | none => false

/-- Whether some element that satisfies `p` is open with no end of the scope inside it. -/
def inScopeWhere (d : Draft) (scope : Scope) (p : Nat → Bool) : Bool :=
  go d.stack
where
  go : List Nat → Bool
    | [] => false
    | id :: rest =>
      if p id then true
      else match d.element? id with
        | some element => if scope.ends element then false else go rest
        | none => go rest

def inScope (d : Draft) (scope : Scope) (names : List String) : Bool :=
  d.inScopeWhere scope (d.isNamed · names)

def hasOpen (d : Draft) (name : String) : Bool := d.stack.any (d.isNamed · [name])

def pop (d : Draft) : Draft := { d with stack := d.stack.drop 1 }

/-- Closes elements up to one with such a name, and that one too. -/
def popThrough (d : Draft) (names : List String) : Draft :=
  { d with stack := (d.stack.dropWhile (!d.isNamed · names)).drop 1 }

def popTo (d : Draft) (names : List String) : Draft :=
  { d with stack := d.stack.dropWhile (!d.isNamed · names) }

def closeImplied (d : Draft) (names : List String) : Draft :=
  { d with stack := d.stack.dropWhile (d.isNamed · names) }

def closeImpliedExcept (d : Draft) (name : String) : Draft :=
  d.closeImplied (impliedEnds.filter (· != name))

def closeElement (d : Draft) (id : Nat) : Draft := { d with stack := d.stack.erase id }

def closeParagraph (d : Draft) : Draft := (d.closeImpliedExcept "p").popThrough ["p"]

def closeParagraphInScope (d : Draft) : Draft :=
  if d.inScope .button ["p"] then d.closeParagraph else d

def clearToMarker (d : Draft) : Draft :=
  { d with formatting := (d.formatting.dropWhile (· != .marker)).drop 1 }

def closeCell (d : Draft) : Draft :=
  ((d.closeImplied impliedEnds).popThrough ["td", "th"]).clearToMarker

/-- The mode that the open elements call for, from the current one outwards. -/
def modeFor (d : Draft) : List Nat → Mode
  | [] => .inBody
  | id :: outer =>
    let isRoot := outer.isEmpty
    match d.element? id with
    | some (.html, name) =>
      if name == "select" then selectMode outer
      else if ["td", "th"].contains name && !isRoot then .inCell
      else if name == "tr" then .inRow
      else if ["tbody", "thead", "tfoot"].contains name then .inTableBody
      else if name == "caption" then .inCaption
      else if name == "colgroup" then .inColumnGroup
      else if name == "table" then .inTable
      else if name == "template" then d.templateModes.headD .inTemplate
      else if name == "head" && !isRoot then .inHead
      else if name == "body" then .inBody
      else if name == "frameset" then .inFrameset
      else if name == "html" then (if d.head.isNone then .beforeHead else .afterHead)
      else modeFor d outer
    | _ => modeFor d outer
where
  selectMode : List Nat → Mode
    | [] => .inSelect
    | id :: outer =>
      if d.isNamed id ["template"] then .inSelect
      else if d.isNamed id ["table"] then .inSelectInTable
      else selectMode outer

def resetMode (d : Draft) : Mode := d.modeFor d.stack

def openBody? (d : Draft) : Option Nat :=
  match d.stack.reverse with
  | _ :: id :: _ => if d.isNamed id ["body"] then some id else none
  | _ => none

end Draft
end Html
end InstanceCatalog
