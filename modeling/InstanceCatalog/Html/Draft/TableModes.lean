import InstanceCatalog.Html.Draft.Body

namespace InstanceCatalog
namespace Html
namespace Draft

def tableContext : List String := ["html", "table", "template"]
def bodyContext : List String := ["tbody", "tfoot", "thead", "template", "html"]
def rowContext : List String := ["tr", "template", "html"]

/-- Elements in which text has no place. -/
def tableOuter : List String := ["table", "tbody", "tfoot", "thead", "tr"]

def groupNames : List String := ["tbody", "tfoot", "thead"]
def cellNames : List String := ["td", "th"]

def closeTable (d : Draft) : Draft := d.popThrough ["table"]

def textInTable (d : Draft) (t : Token) : Step :=
  if d.currentIn tableOuter then ({ d with returnMode := d.mode }, .again .inTableText)
  else d.fosterInBody t

def tableStart (d : Draft) (tag : Tag) : Step :=
  let name := tag.name
  let cleared := d.popTo tableContext
  if name == "caption" then ((cleared.withMarker.openTag name).withMode .inCaption).done
  else if name == "colgroup" then ((cleared.openTag name).withMode .inColumnGroup).done
  else if name == "col" then (cleared.openTag "colgroup", .again .inColumnGroup)
  else if groupNames.contains name then ((cleared.openTag name).withMode .inTableBody).done
  else if ["td", "th", "tr"].contains name then (cleared.openTag "tbody", .again .inTableBody)
  else if name == "table" then
    if d.inScope .table ["table"] then
      let d := d.closeTable
      (d, .again d.resetMode)
    else d.done
  else if ["style", "script", "template"].contains name then d.inHead (.start tag)
  else if name == "input" && isHidden tag then (d.insertVoid name).done
  else if name == "form" then
    if d.form.isNone && !d.hasOpen "template" then
      let (d, id) := d.insertOnly .html name
      { d with form := some id }.done
    else d.done
  else d.fosterInBody (.start tag)

def tableFinish (d : Draft) (tag : Tag) : Step :=
  let name := tag.name
  if name == "table" then
    if d.inScope .table ["table"] then
      let d := d.closeTable
      (d.withMode d.resetMode).done
    else d.done
  else if (["body", "caption", "col", "colgroup", "html", "tr"] ++ groupNames ++ cellNames).contains
      name then d.done
  else if name == "template" then d.inHead (.finish tag)
  else d.fosterInBody (.finish tag)

def inTable (d : Draft) (t : Token) : Step :=
  match t with
  | .nul | .char _ => d.textInTable t
  | .comment => d.insertComment.done
  | .start tag => d.tableStart tag
  | .finish tag => d.tableFinish tag
  | .eof => d.inBody t
  | .doctype _ => d.done

/-- Places the characters that were read in a table: blanks stay, others move in front of it. -/
def placeTableText (d : Draft) : Draft :=
  let text := d.tableText.reverse
  let d := { d with tableText := [] }
  if text.all isSpace then text.foldl insertChar d
  else text.foldl (fun d c => (d.fosterInBody (.char c)).1) d

def inTableText (d : Draft) (t : Token) : Step :=
  match t with
  | .nul => d.done
  | .char c => { d with tableText := c :: d.tableText }.done
  | _ => (d.placeTableText, .again d.returnMode)

def captionEnd (d : Draft) : Draft :=
  ((d.closeImplied impliedEnds).popThrough ["caption"]).clearToMarker

def inCaption (d : Draft) (t : Token) : Step :=
  match t with
  | .start tag =>
    if (["caption", "col", "colgroup", "tr"] ++ groupNames ++ cellNames).contains tag.name then
      if d.inScope .table ["caption"] then (d.captionEnd, .again .inTable) else d.done
    else d.inBody t
  | .finish tag =>
    let name := tag.name
    if name == "table" || name == "caption" then
      if d.inScope .table ["caption"] then
        if name == "caption" then (d.captionEnd.withMode .inTable).done
        else (d.captionEnd, .again .inTable)
      else d.done
    else if
      (["body", "col", "colgroup", "html", "tr"] ++ groupNames ++ cellNames).contains name then
      d.done
    else d.inBody t
  | _ => d.inBody t

def inColumnGroup (d : Draft) (t : Token) : Step :=
  let isCurrent := d.currentIn ["colgroup"]
  let otherwise : Step := if isCurrent then (d.pop, .again .inTable) else d.done
  match t with
  | .char c => if isSpace c then (d.insertChar c).done else otherwise
  | .comment => d.insertComment.done
  | .start tag =>
    let name := tag.name
    if name == "html" then d.done
    else if name == "col" then (d.insertVoid name).done
    else if name == "template" then d.inHead t
    else otherwise
  | .finish tag =>
    let name := tag.name
    if name == "colgroup" then (if isCurrent then d.pop.withMode .inTable else d).done
    else if name == "col" then d.done
    else if name == "template" then d.inHead t
    else otherwise
  | .eof => d.inBody t
  | .nul => otherwise
  | .doctype _ => d.done

def groupEnd (d : Draft) : Step :=
  if d.inScope .table ["table", "tbody", "tfoot"] then ((d.popTo bodyContext).pop, .again .inTable)
  else d.done

def inTableBody (d : Draft) (t : Token) : Step :=
  match t with
  | .start tag =>
    let name := tag.name
    let cleared := d.popTo bodyContext
    if name == "tr" then ((cleared.openTag name).withMode .inRow).done
    else if cellNames.contains name then (cleared.openTag "tr", .again .inRow)
    else if (["caption", "col", "colgroup"] ++ groupNames).contains name then d.groupEnd
    else d.inTable t
  | .finish tag =>
    let name := tag.name
    if groupNames.contains name then
      (if d.inScope .table [name] then (d.popTo bodyContext).pop.withMode .inTable else d).done
    else if name == "table" then d.groupEnd
    else if (["body", "caption", "col", "colgroup", "html", "tr"] ++ cellNames).contains name then
      d.done
    else d.inTable t
  | _ => d.inTable t

def closeRow (d : Draft) : Draft := (d.popTo rowContext).pop

def inRow (d : Draft) (t : Token) : Step :=
  let endRow : Step :=
    if d.inScope .table ["tr"] then (d.closeRow, .again .inTableBody) else d.done
  match t with
  | .start tag =>
    let name := tag.name
    if cellNames.contains name then
      (((d.popTo rowContext).openTag name).withMode .inCell).withMarker.done
    else if (["caption", "col", "colgroup", "tr"] ++ groupNames).contains name then endRow
    else d.inTable t
  | .finish tag =>
    let name := tag.name
    if name == "tr" then
      (if d.inScope .table ["tr"] then d.closeRow.withMode .inTableBody else d).done
    else if name == "table" then endRow
    else if groupNames.contains name then
      if d.inScope .table [name] then endRow else d.done
    else if (["body", "caption", "col", "colgroup", "html"] ++ cellNames).contains name then d.done
    else d.inTable t
  | _ => d.inTable t

def inCell (d : Draft) (t : Token) : Step :=
  match t with
  | .start tag =>
    if (["caption", "col", "colgroup", "tr"] ++ groupNames ++ cellNames).contains tag.name then
      if d.inScope .table cellNames then (d.closeCell, .again .inRow) else d.done
    else d.inBody t
  | .finish tag =>
    let name := tag.name
    if cellNames.contains name then
      if d.inScope .table [name] then
        ((((d.closeImplied impliedEnds).popThrough [name]).clearToMarker).withMode .inRow).done
      else d.done
    else if ["body", "caption", "col", "colgroup", "html"].contains name then d.done
    else if (["table", "tr"] ++ groupNames).contains name then
      if d.inScope .table [name] then (d.closeCell, .again .inRow) else d.done
    else d.inBody t
  | _ => d.inBody t

def closeSelect (d : Draft) : Draft := d.popThrough ["select"]

def closeOption (d : Draft) : Draft := if d.currentIn ["option"] then d.pop else d

def closeOptionGroup (d : Draft) : Draft := if d.currentIn ["optgroup"] then d.pop else d

def optionInGroup (d : Draft) : Bool :=
  d.currentIn ["option"] &&
    (match d.stack with
      | _ :: outer :: _ => d.isNamed outer ["optgroup"]
      | _ => false)

def inSelect (d : Draft) (t : Token) : Step :=
  match t with
  | .nul | .doctype _ => d.done
  | .char c => (d.insertChar c).done
  | .comment => d.insertComment.done
  | .eof => d.inBody t
  | .start tag =>
    let name := tag.name
    let inSelect := d.inScope .select ["select"]
    if name == "html" then d.done
    else if name == "option" then (d.closeOption.openTag name).done
    else if name == "optgroup" then (d.closeOption.closeOptionGroup.openTag name).done
    else if name == "select" then
      if inSelect then
        let d := d.closeSelect
        (d.withMode d.resetMode).done
      else d.done
    else if ["input", "keygen", "textarea"].contains name then
      if inSelect then
        let d := d.closeSelect
        (d, .again d.resetMode)
      else d.done
    else if ["script", "template"].contains name then d.inHead t
    else d.done
  | .finish tag =>
    let name := tag.name
    if name == "optgroup" then (if d.optionInGroup then d.pop else d).closeOptionGroup.done
    else if name == "option" then d.closeOption.done
    else if name == "select" then
      if d.inScope .select ["select"] then
        let d := d.closeSelect
        (d.withMode d.resetMode).done
      else d.done
    else if name == "template" then d.inHead t
    else d.done

def inSelectInTable (d : Draft) (t : Token) : Step :=
  let names := ["caption", "table", "tr"] ++ groupNames ++ cellNames
  let leave : Step :=
    let d := d.closeSelect
    (d, .again d.resetMode)
  match t with
  | .start tag => if names.contains tag.name then leave else d.inSelect t
  | .finish tag =>
    if names.contains tag.name then (if d.inScope .table [tag.name] then leave else d.done)
    else d.inSelect t
  | _ => d.inSelect t

end Draft
end Html
end InstanceCatalog
