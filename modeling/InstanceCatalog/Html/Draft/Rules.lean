import InstanceCatalog.Html.Draft.TableModes

namespace InstanceCatalog
namespace Html
namespace Draft

/-- Makes a mode the one of the innermost template and lets it look at the token. -/
def templateAgain (d : Draft) (mode : Mode) : Step :=
  ({ d with templateModes := mode :: d.templateModes.drop 1 }, .again mode)

def inTemplate (d : Draft) (t : Token) : Step :=
  match t with
  | .char _ | .comment => d.inBody t
  | .nul | .doctype _ => d.done
  | .eof => d.endInTemplate
  | .start tag =>
    let name := tag.name
    if headNames.contains name then d.inHead t
    else if (["caption", "colgroup"] ++ groupNames).contains name then d.templateAgain .inTable
    else if name == "col" then d.templateAgain .inColumnGroup
    else if name == "tr" then d.templateAgain .inTableBody
    else if cellNames.contains name then d.templateAgain .inRow
    else d.templateAgain .inBody
  | .finish tag => if tag.name == "template" then d.inHead t else d.done

def isHtmlStart : Token → Bool
  | .start tag => tag.name == "html"
  | _ => false

def isHtmlFinish : Token → Bool
  | .finish tag => tag.name == "html"
  | _ => false

def isNoframes : Token → Bool
  | .start tag => tag.name == "noframes"
  | _ => false

def isBlankToken : Token → Bool
  | .char c => isSpace c
  | _ => false

def afterBody (d : Draft) (t : Token) : Step :=
  if isBlankToken t then d.inBody t
  else if isHtmlStart t then d.done
  else if isHtmlFinish t then (d.withMode .afterAfterBody).done
  else match t with
    | .comment => (d.appendComment (d.stack.getLastD root)).done
    | .eof => d.done
    | _ => (d, .again .inBody)

def inFrameset (d : Draft) (t : Token) : Step :=
  match t with
  | .char c => (if isSpace c then d.insertChar c else d).done
  | .comment => d.insertComment.done
  | .start tag =>
    let name := tag.name
    if name == "frameset" then (d.openTag name).done
    else if name == "frame" then (d.insertVoid name).done
    else if name == "noframes" then d.inHead t
    else d.done
  | .finish tag =>
    if tag.name == "frameset" && d.stack.length != 1 then
      let d := d.pop
      (if d.currentIn ["frameset"] then d else d.withMode .afterFrameset).done
    else d.done
  | _ => d.done

def afterFrameset (d : Draft) (t : Token) : Step :=
  if isHtmlFinish t then (d.withMode .afterAfterFrameset).done
  else if isNoframes t then d.inHead t
  else match t with
    | .char c => (if isSpace c then d.insertChar c else d).done
    | .comment => d.insertComment.done
    | _ => d.done

def afterAfterBody (d : Draft) (t : Token) : Step :=
  if isBlankToken t then d.inBody t
  else if isHtmlStart t then d.done
  else match t with
    | .comment => (d.appendComment root).done
    | .eof => d.done
    | _ => (d, .again .inBody)

def afterAfterFrameset (d : Draft) (t : Token) : Step :=
  if isBlankToken t then d.inBody t
  else if isNoframes t then d.inHead t
  else match t with
    | .comment => (d.appendComment root).done
    | _ => d.done

def step (mode : Mode) (d : Draft) (t : Token) : Step :=
  match mode with
  | .initial => d.initial t
  | .beforeHtml => d.beforeHtml t
  | .beforeHead => d.beforeHead t
  | .inHead => d.inHead t
  | .afterHead => d.afterHead t
  | .inBody => d.inBody t
  | .text => d.inText t
  | .inTable => d.inTable t
  | .inTableText => d.inTableText t
  | .inCaption => d.inCaption t
  | .inColumnGroup => d.inColumnGroup t
  | .inTableBody => d.inTableBody t
  | .inRow => d.inRow t
  | .inCell => d.inCell t
  | .inSelect => d.inSelect t
  | .inSelectInTable => d.inSelectInTable t
  | .inTemplate => d.inTemplate t
  | .afterBody => d.afterBody t
  | .inFrameset => d.inFrameset t
  | .afterFrameset => d.afterFrameset t
  | .afterAfterBody => d.afterAfterBody t
  | .afterAfterFrameset => d.afterAfterFrameset t

/-- Whether the rules for elements outside HTML look at a token: the current element is one, and
it is not a point at which HTML content goes on. -/
def isForeign (d : Draft) (t : Token) : Bool :=
  match d.current?.bind d.element? with
  | none => false
  | some element =>
    if element.1 = .html then false
    else match t with
      | .eof => false
      | .char _ | .nul => !isTextPoint element && !isHtmlPoint element
      | .start tag =>
        !(isTextPoint element && !(["mglyph", "malignmark"].contains tag.name)) &&
          !isHtmlPoint element &&
          !(element == (.mathml, "annotation-xml") && tag.name == "svg")
      | _ => true

def breakouts : List String := [
  "b", "big", "blockquote", "body", "br", "center", "code", "dd", "div", "dl", "dt", "em", "embed",
  "h1", "h2", "h3", "h4", "h5", "h6", "head", "hr", "i", "img", "li", "listing", "menu", "meta",
  "nobr", "ol", "p", "pre", "ruby", "s", "small", "span", "strong", "strike", "sub", "sup",
  "table", "tt", "u", "ul", "var"]

def breaksOut (tag : Tag) : Bool :=
  breakouts.contains tag.name ||
    (tag.name == "font" &&
      ["color", "face", "size"].any fun name => (tag.attribute? name).isSome)

def holdsHtml (d : Draft) (id : Nat) : Bool :=
  match d.element? id with
  | some element => element.1 == .html || isTextPoint element || isHtmlPoint element
  | none => false

/-- An element inside one that is not HTML is of the same namespace. The one SVG name with a
capital letter that the rules ask for gets it here. -/
def foreignStart (d : Draft) (tag : Tag) : Draft :=
  match d.current?.bind d.element? with
  | some (.svg, _) =>
    d.openForeign .svg (if tag.name == "foreignobject" then { tag with name := "foreignObject" }
      else tag)
  | some (space, _) => d.openForeign space tag
  | none => d

/-- Looks outwards for the element that an end tag closes. Behind the first element, the first
HTML element leaves the decision to the mode. -/
def foreignFinish (d : Draft) (tag : Tag) (isFirst : Bool) : List Nat → Step
  | [] | [_] => d.done
  | id :: outer =>
    match d.element? id with
    | none => d.foreignFinish tag false outer
    | some (space, name) =>
      if !isFirst && space = .html then step d.mode d (.finish tag)
      else if name.toLower == tag.name then { d with stack := outer }.done
      else d.foreignFinish tag false outer

def foreignStep (d : Draft) (t : Token) : Step :=
  match t with
  | .nul => (d.insertChar replacement).done
  | .char c => ((if isSpace c then d else d.noFrameset).insertChar c).done
  | .comment => d.insertComment.done
  | .start tag =>
    if breaksOut tag then ({ d with stack := (d.stack.drop 1).dropWhile (!d.holdsHtml ·) }, .anew)
    else (d.foreignStart tag).done
  | .finish tag => d.foreignFinish tag true d.stack
  | .doctype _ | .eof => d.done

/-- Lets the modes look at a token until it is used up. -/
def handleWithin : Nat → Draft → Token → Draft × Option LexMode
  | 0, d, _ => (d, none)
  | looks + 1, d, t =>
    match if d.isForeign t then d.foreignStep t else step d.mode d t with
    | (d, .done) => (d, none)
    | (d, .again mode) => handleWithin looks (d.withMode mode) t
    | (d, .anew) => handleWithin looks d t
    | (d, .raw mode) => (d, some mode)

/-- How many looks are enough: handing a token on closes an element or moves to a later mode. -/
def looks (d : Draft) : Nat := 64 + 4 * d.stack.length

def handle (d : Draft) (t : Token) : Draft × Option LexMode :=
  let ignored := d.ignoreLineFeed
  let d := { d with ignoreLineFeed := false }
  match t with
  | .char c => if ignored && c = '\n' then (d, none) else handleWithin d.looks d t
  | _ => handleWithin d.looks d t

end Draft
end Html
end InstanceCatalog
