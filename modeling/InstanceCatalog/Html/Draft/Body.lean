import InstanceCatalog.Html.Draft.Head

namespace InstanceCatalog
namespace Html
namespace Draft

def blocks : List String := [
  "address", "article", "aside", "blockquote", "center", "details", "dialog", "dir", "div", "dl",
  "fieldset", "figcaption", "figure", "footer", "header", "hgroup", "main", "nav", "ol", "p",
  "section", "summary", "ul", "menu"]

def closableBlocks : List String := [
  "address", "article", "aside", "blockquote", "button", "center", "details", "dialog", "dir",
  "div", "dl", "fieldset", "figcaption", "figure", "footer", "header", "hgroup", "listing",
  "main", "menu", "nav", "ol", "pre", "section", "summary", "ul"]

def formattingNames : List String :=
  ["b", "big", "code", "em", "font", "i", "s", "small", "strike", "strong", "tt", "u"]

/-- Start tags that mean something in tables, frames or heads only. -/
def misplaced : List String := [
  "caption", "col", "colgroup", "frame", "head", "tbody", "td", "tfoot", "th", "thead", "tr"]

def isHidden (tag : Tag) : Bool :=
  match tag.attribute? "type" with
  | some value => Text.equalsIgnoringAsciiCase value "hidden".toList
  | none => false

/-- Closes the item that a new item follows: one of these names with no special element inside
it, paragraphs and plain blocks apart. -/
def closeItem (d : Draft) (names : List String) : Draft :=
  let barriers := specials.filter fun s => !(["address", "div", "p"].contains s)
  match d.stack.find? fun id => d.isNamed id names || d.isNamed id barriers with
  | none => d
  | some id =>
    match d.element? id with
    | some (.html, name) =>
      if names.contains name then (d.closeImpliedExcept name).popThrough [name] else d
    | _ => d

def openItem (d : Draft) (name : String) : Draft :=
  let d := d.noFrameset.closeItem (if name == "li" then ["li"] else ["dd", "dt"])
  d.closeParagraphInScope.openTag name

def openForm (d : Draft) : Draft :=
  let inTemplate := d.hasOpen "template"
  if d.form.isSome && !inTemplate then d
  else
    let (d, id) := d.closeParagraphInScope.insertNew .html "form"
    if inTemplate then d else { d with form := some id }

def closeForm (d : Draft) : Draft :=
  if d.hasOpen "template" then
    if d.inScope .standard ["form"] then (d.closeImplied impliedEnds).popThrough ["form"] else d
  else match d.form with
    | none => d
    | some id =>
      let d := { d with form := none }
      if d.inScopeWhere .standard (· == id) then (d.closeImplied impliedEnds).closeElement id else d

/-- Opens an element outside HTML, or only makes it when its tag closes it. -/
def openForeign (d : Draft) (space : Namespace) (tag : Tag) : Draft :=
  if tag.selfClosing then (d.insertOnly space tag.name).1 else (d.insertNew space tag.name).1

/-- A frameset takes the place of a body in which nothing has been written yet. -/
def replaceBody (d : Draft) : Draft :=
  match d.framesetOk, d.openBody? with
  | true, some body =>
    let d := d.detach body
    let d := { d with stack := d.stack.drop (d.stack.length - 1) }
    (d.openTag "frameset").withMode .inFrameset
  | _, _ => d

def openSelect (d : Draft) : Draft :=
  let mode := match d.mode with
    | .inTable | .inCaption | .inTableBody | .inRow | .inCell => .inSelectInTable
    | _ => .inSelect
  ((d.reconstruct.openTag "select").noFrameset).withMode mode

def insertBreak (d : Draft) (name : String) : Draft := (d.reconstruct.insertVoid name).noFrameset

def openNobr (d : Draft) (tag : Tag) : Draft :=
  let d := d.reconstruct
  let d := if d.inScope .standard ["nobr"] then (d.closeFormatting "nobr").reconstruct else d
  d.openFormatting tag

def openButton (d : Draft) : Draft :=
  let d :=
    if d.inScope .standard ["button"] then (d.closeImplied impliedEnds).popThrough ["button"] else d
  (d.reconstruct.openTag "button").noFrameset

def bodyStart (d : Draft) (tag : Tag) : Step :=
  let name := if tag.name == "image" then "img" else tag.name
  if name == "html" then d.done
  else if headNames.contains name then d.inHead (.start tag)
  else if name == "body" then
    (if d.openBody?.isSome && !d.hasOpen "template" then d.noFrameset else d).done
  else if name == "frameset" then d.replaceBody.done
  else if blocks.contains name then (d.closeParagraphInScope.openTag name).done
  else if headings.contains name then
    let d := d.closeParagraphInScope
    ((if d.currentIn headings then d.pop else d).openTag name).done
  else if ["pre", "listing"].contains name then
    let d := (d.closeParagraphInScope.openTag name).noFrameset
    { d with ignoreLineFeed := true }.done
  else if name == "form" then d.openForm.done
  else if ["li", "dd", "dt"].contains name then (d.openItem name).done
  else if name == "plaintext" then (d.closeParagraphInScope.openTag name, .raw .plaintext)
  else if name == "button" then d.openButton.done
  else if name == "a" then (d.closeOpenLink.reconstruct.openFormatting tag).done
  else if formattingNames.contains name then (d.reconstruct.openFormatting tag).done
  else if name == "nobr" then (d.openNobr tag).done
  else if ["applet", "marquee", "object"].contains name then
    (d.reconstruct.openTag name).withMarker.noFrameset.done
  else if name == "table" then
    let d := if d.oldStyle then d else d.closeParagraphInScope
    ((d.openTag name).noFrameset.withMode .inTable).done
  else if ["area", "br", "embed", "img", "keygen", "wbr"].contains name then
    (d.insertBreak name).done
  else if name == "input" then
    let inserted := d.reconstruct.insertVoid name
    (if isHidden tag then inserted else inserted.noFrameset).done
  else if ["param", "source", "track"].contains name then (d.insertVoid name).done
  else if name == "hr" then (d.closeParagraphInScope.insertVoid name).noFrameset.done
  else if name == "textarea" then
    { d.noFrameset with ignoreLineFeed := true }.openRaw name (.rcdata name)
  else if name == "xmp" then
    d.closeParagraphInScope.reconstruct.noFrameset.openRaw name (.rawtext name)
  else if name == "iframe" then d.noFrameset.openRaw name (.rawtext name)
  else if ["noembed", "noscript"].contains name then d.openRaw name (.rawtext name)
  else if name == "select" then d.openSelect.done
  else if ["optgroup", "option"].contains name then
    ((if d.currentIn ["option"] then d.pop else d).reconstruct.openTag name).done
  else if ["rb", "rtc"].contains name then
    ((if d.inScope .standard ["ruby"] then d.closeImplied impliedEnds else d).openTag name).done
  else if ["rp", "rt"].contains name then
    ((if d.inScope .standard ["ruby"] then d.closeImpliedExcept "rtc" else d).openTag name).done
  else if name == "math" then (d.openForeign .mathml tag).done
  else if name == "svg" then (d.openForeign .svg tag).done
  else if misplaced.contains name then d.done
  else (d.reconstruct.openTag name).done

def bodyFinish (d : Draft) (tag : Tag) : Step :=
  let name := tag.name
  if name == "template" then d.inHead (.finish tag)
  else if name == "body" then
    (if d.inScope .standard ["body"] then d.withMode .afterBody else d).done
  else if name == "html" then
    if d.inScope .standard ["body"] then (d, .again .afterBody) else d.done
  else if closableBlocks.contains name then
    (if d.inScope .standard [name] then (d.closeImplied impliedEnds).popThrough [name] else d).done
  else if name == "form" then d.closeForm.done
  else if name == "p" then
    (if d.inScope .button ["p"] then d else d.openTag "p").closeParagraph.done
  else if ["li", "dd", "dt"].contains name then
    let scope := if name == "li" then Scope.list else Scope.standard
    (if d.inScope scope [name] then (d.closeImpliedExcept name).popThrough [name] else d).done
  else if headings.contains name then
    (if d.inScope .standard headings then (d.closeImplied impliedEnds).popThrough headings
      else d).done
  else if (["a", "nobr"] ++ formattingNames).contains name then (d.closeFormatting name).done
  else if ["applet", "marquee", "object"].contains name then
    (if d.inScope .standard [name] then
      ((d.closeImplied impliedEnds).popThrough [name]).clearToMarker else d).done
  else if name == "br" then (d.insertBreak name).done
  else (d.closeAny name).done

/-- The end of the document inside a template closes the template first. -/
def endInTemplate (d : Draft) : Step :=
  if d.hasOpen "template" then
    let d := (d.popThrough ["template"]).clearToMarker
    let d := { d with templateModes := d.templateModes.drop 1 }
    (d, .again d.resetMode)
  else d.done

def inBody (d : Draft) (t : Token) : Step :=
  match t with
  | .nul | .doctype _ => d.done
  | .char c =>
    let d := d.reconstruct
    ((if isSpace c then d else d.noFrameset).insertChar c).done
  | .comment => d.insertComment.done
  | .start tag => d.bodyStart tag
  | .finish tag => d.bodyFinish tag
  | .eof => if d.templateModes.isEmpty then d.done else d.endInTemplate

def fosterInBody (d : Draft) (t : Token) : Step :=
  let (d, next) := inBody { d with fostering := true } t
  ({ d with fostering := false }, next)

end Draft
end Html
end InstanceCatalog
