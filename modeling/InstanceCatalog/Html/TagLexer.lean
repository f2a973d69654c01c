import InstanceCatalog.Html.CharacterReference

namespace InstanceCatalog
namespace Html

def endsName (c : Char) : Bool := isSpace c || c == '/' || c == '>'

def nameChar (c : Char) : Char := if c = '\x00' then replacement else c.toLower

def tagName (s : Text) : String := String.ofList ((s.takeWhile (!endsName ·)).map nameChar)

/-- Where a reader of attributes stands. Names and values are kept last character first. -/
inductive AttributePlace
  | beforeName
  | name (read : Text)
  | afterName (name : Text)
  | beforeValue (name : Text)
  | value (name : Text) (quote : Char) (read : Text)
  | unquoted (name read : Text)
  | afterValue
  | slash
deriving DecidableEq, Repr

/-- Adds an attribute unless its name is there already. -/
def addAttribute (attributes : List (String × Text)) (name value : Text) :
    List (String × Text) :=
  let name := String.ofList name.reverse
  if (attributes.lookup name).isSome then attributes
  else attributes ++ [(name, attributeValue value.reverse)]

def openPlace (c : Char) : AttributePlace :=
  if isSpace c then .beforeName else if c = '/' then .slash else .name [nameChar c]

/-- Reads attributes up to the end of the tag. A tag that never ends is none. -/
def attributesFrom (name : String) (place : AttributePlace) (found : List (String × Text)) :
    Text → Option (Tag × Text)
  | [] => none
  | c :: rest =>
    match place with
    | .beforeName | .afterValue =>
      if c = '>' then some (⟨name, found, false⟩, rest)
      else attributesFrom name (openPlace c) found rest
    | .slash =>
      if c = '>' then some (⟨name, found, true⟩, rest)
      else attributesFrom name (openPlace c) found rest
    | .name read =>
      if c = '>' then some (⟨name, addAttribute found read [], false⟩, rest)
      else if isSpace c then attributesFrom name (.afterName read) found rest
      else if c = '/' then attributesFrom name .slash (addAttribute found read []) rest
      else if c = '=' then attributesFrom name (.beforeValue read) found rest
      else attributesFrom name (.name (nameChar c :: read)) found rest
    | .afterName read =>
      if isSpace c then attributesFrom name (.afterName read) found rest
      else if c = '=' then attributesFrom name (.beforeValue read) found rest
      else if c = '>' then some (⟨name, addAttribute found read [], false⟩, rest)
      else attributesFrom name (openPlace c) (addAttribute found read []) rest
    | .beforeValue read =>
      if isSpace c then attributesFrom name (.beforeValue read) found rest
      else if c = '"' || c = '\'' then attributesFrom name (.value read c []) found rest
      else if c = '>' then some (⟨name, addAttribute found read [], false⟩, rest)
      else attributesFrom name (.unquoted read [c]) found rest
    | .value read quote value =>
      if c = quote then attributesFrom name .afterValue (addAttribute found read value) rest
      else attributesFrom name (.value read quote (c :: value)) found rest
    | .unquoted read value =>
      if isSpace c then attributesFrom name .beforeName (addAttribute found read value) rest
      else if c = '>' then some (⟨name, addAttribute found read value, false⟩, rest)
      else attributesFrom name (.unquoted read (c :: value)) found rest

def readTag (s : Text) : Option (Tag × Text) :=
  attributesFrom (tagName s) .beforeName [] (s.dropWhile (!endsName ·))

def skipPast (s : Text) : Text := (s.dropWhile (· != '>')).drop 1

def skipCommentEnd : Text → Text
  | [] => []
  | c :: rest =>
    if "-->".toList.isPrefixOf (c :: rest) then rest.drop 2
    else if "--!>".toList.isPrefixOf (c :: rest) then rest.drop 3
    else skipCommentEnd rest

/-- What follows a comment, from behind its opening dashes. A comment may end at once. -/
def skipComment (s : Text) : Text :=
  match s with
  | '>' :: rest => rest
  | '-' :: '>' :: rest => rest
  | _ => skipCommentEnd s

def startsIgnoringCase (word : String) (s : Text) : Bool :=
  (s.take word.length).map Char.toLower == word.toList

/-- A quoted identifier from behind its opening quote, with what follows and whether it ended as
it should. -/
def readIdentifier (quote : Char) (s : Text) : Text × Text × Bool :=
  let inside := fun c : Char => c != quote && c != '>'
  let id := (s.takeWhile inside).map fun c =>
    if c = '\x00' then replacement else if c = '\r' then '\n' else c
  match s.dropWhile inside with
  | [] => (id, [], false)
  | c :: rest => (id, if c = quote then rest else c :: rest, c == quote)

/-- A document type whose part from `s` on is only well formed when it ends here. -/
def endDoctype (d : Doctype) (wellFormedOnlyHere : Bool) (s : Text) : Doctype × Text :=
  match s.dropWhile isSpace with
  | [] => ({ d with forceOldStyle := true }, [])
  | c :: rest =>
    ({ d with forceOldStyle := d.forceOldStyle || (wellFormedOnlyHere && c != '>') },
      skipPast (c :: rest))

def isQuote (c : Char) : Bool := c == '"' || c == '\''

/-- The system identifier of a document type; it must be there if `required`. -/
def readSystemId (d : Doctype) (required : Bool) (s : Text) : Doctype × Text :=
  match s.dropWhile isSpace with
  | [] => ({ d with forceOldStyle := true }, [])
  | c :: rest =>
    if isQuote c then
      let (id, rest, ended) := readIdentifier c rest
      endDoctype { d with systemId := some id, forceOldStyle := !ended } false rest
    else endDoctype { d with forceOldStyle := required } (!required) (c :: rest)

/-- The public identifier, which must be there, and the system identifier behind it. -/
def readPublicId (d : Doctype) (s : Text) : Doctype × Text :=
  match s.dropWhile isSpace with
  | [] => ({ d with forceOldStyle := true }, [])
  | c :: rest =>
    if isQuote c then
      let (id, rest, ended) := readIdentifier c rest
      let d := { d with publicId := some id, forceOldStyle := !ended }
      if ended then readSystemId d false rest else (d, skipPast rest)
    else ({ d with forceOldStyle := true }, skipPast (c :: rest))

def readDoctype (s : Text) : Doctype × Text :=
  match s.dropWhile isSpace with
  | [] => (⟨none, none, none, true⟩, [])
  | c :: rest =>
    if c = '>' then (⟨none, none, none, true⟩, rest)
    else
      let inName := fun c : Char => !isSpace c && c != '>'
      let name := ((c :: rest).takeWhile inName).map nameChar
      let d : Doctype := ⟨some name, none, none, false⟩
      let s := ((c :: rest).dropWhile inName).dropWhile isSpace
      if startsIgnoringCase "public" s then readPublicId d (s.drop 6)
      else if startsIgnoringCase "system" s then readSystemId d true (s.drop 6)
      else endDoctype d true s

end Html
end InstanceCatalog
