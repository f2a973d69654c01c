import InstanceCatalog.Html.TagLexer

/-!
The lexer of HTML texts. What the next characters mean depends on the mode: in most of a document
they may be markup, inside a raw element only its own end tag is.
-/

namespace InstanceCatalog
namespace Html

/-- Where a script text stands. After `<!--` a script may hold a whole script element, whose end
tag then does not end the script. -/
inductive ScriptPlace
  | plain
  | less
  | escapeStart
  | escapeDash
  /-- Escaped, with so many dashes last, two at most. -/
  | escaped (dashes : Nat)
  | escapedLess
  | innerName (read : Text)
  | inner (dashes : Nat)
  | innerLess
  | innerEnd (read : Text)
deriving DecidableEq, Repr

namespace ScriptPlace

def plainStep (c : Char) : ScriptPlace := if c = '<' then less else plain

def escapedStep (dashes : Nat) (c : Char) : ScriptPlace :=
  if c = '-' then escaped (min 2 (dashes + 1))
  else if c = '<' then escapedLess
  else if c = '>' && dashes = 2 then plain
  else escaped 0

def innerStep (dashes : Nat) (c : Char) : ScriptPlace :=
  if c = '-' then inner (min 2 (dashes + 1))
  else if c = '<' then innerLess
  else if c = '>' && dashes = 2 then plain
  else inner 0

def isScript (read : Text) : Bool := read.reverse == "script".toList

def step (place : ScriptPlace) (c : Char) : ScriptPlace :=
  match place with
  | plain => plainStep c
  | less => if c = '!' then escapeStart else plainStep c
  | escapeStart => if c = '-' then escapeDash else plainStep c
  | escapeDash => if c = '-' then escaped 2 else plainStep c
  | escaped dashes => escapedStep dashes c
  | escapedLess => if c.isAlpha then innerName [c.toLower] else escapedStep 0 c
  | innerName read =>
    if endsName c then (if isScript read then inner 0 else escaped 0)
    else if c.isAlpha then innerName (c.toLower :: read)
    else escapedStep 0 c
  | inner dashes => innerStep dashes c
  | innerLess => if c = '/' then innerEnd [] else innerStep 0 c
  | innerEnd read =>
    if endsName c then (if isScript read then escaped 0 else inner 0)
    else if c.isAlpha then innerEnd (c.toLower :: read)
    else innerStep 0 c

def endable : ScriptPlace → Bool
  | inner _ | innerLess | innerEnd _ => false
  | _ => true

end ScriptPlace

/-- How the next characters are read. The raw modes carry the name of the element that they fill. -/
inductive LexMode
  | data
  /-- Only references and the end tag mean anything. -/
  | rcdata (element : String)
  /-- Only the end tag means anything. -/
  | rawtext (element : String)
  | script (place : ScriptPlace)
  /-- Nothing means anything up to the end of the document. -/
  | plaintext
deriving DecidableEq, Repr

/-- What one step of the lexer reads. -/
structure Lexed where
  tokens : List Token
  mode : LexMode
  rest : Text
deriving DecidableEq, Repr

namespace Lexer

/-- A carriage return that is left stands for a line feed. -/
def lineFeed (c : Char) : Char := if c = '\r' then '\n' else c

def dataToken (c : Char) : Token := if c = '\x00' then .nul else .char (lineFeed c)

def rawToken (c : Char) : Token := .char (if c = '\x00' then replacement else lineFeed c)

def bogusComment (s : Text) : Lexed := ⟨[.comment], .data, skipPast s⟩

def sectionText : Text → Text × Text
  | [] => ([], [])
  | c :: rest =>
    if "]]>".toList.isPrefixOf (c :: rest) then ([], rest.drop 2)
    else
      let (text, after) := sectionText rest
      (c :: text, after)

/-- A declaration, from behind its `<!`. Character sections stand only in foreign elements. -/
def declaration (inForeign : Bool) (s : Text) : Lexed :=
  if "--".toList.isPrefixOf s then ⟨[.comment], .data, skipComment (s.drop 2)⟩
  else if startsIgnoringCase "doctype" s then
    let (d, rest) := readDoctype (s.drop 7)
    ⟨[.doctype d], .data, rest⟩
  else if inForeign && "[CDATA[".toList.isPrefixOf s then
    let (text, rest) := sectionText (s.drop 7)
    ⟨text.map dataToken, .data, rest⟩
  else bogusComment s

/-- A tag that the document's end cuts off is none. -/
def tagLexed (token : Tag → Token) (s : Text) : Lexed :=
  match readTag s with
  | some (tag, rest) => ⟨[token tag], .data, rest⟩
  | none => ⟨[], .data, []⟩

def markup (inForeign : Bool) (s : Text) : Lexed :=
  match s with
  | '!' :: rest => declaration inForeign rest
  | '/' :: rest =>
    match rest with
    | [] => ⟨[.char '<', .char '/'], .data, []⟩
    | c :: after =>
      if c.isAlpha then tagLexed .finish rest
      else if c = '>' then ⟨[], .data, after⟩
      else bogusComment rest
  | '?' :: _ => bogusComment s
  | c :: _ => if c.isAlpha then tagLexed .start s else ⟨[.char '<'], .data, s⟩
  | [] => ⟨[.char '<'], .data, []⟩

def endsElement (element : String) (s : Text) : Bool :=
  match s with
  | '/' :: rest =>
    startsIgnoringCase element rest &&
      (match rest.drop element.length with
        | [] => false
        | c :: _ => endsName c)
  | _ => false

def rawStep (element : String) (endable : Bool) (mode : LexMode) (c : Char) (rest : Text) : Lexed :=
  if c = '<' && endable && endsElement element rest then tagLexed .finish (rest.drop 1)
  else ⟨[rawToken c], mode, rest⟩

def ampersand (mode : LexMode) (s : Text) : Lexed :=
  let (chars, rest) := readAmpersand false s
  ⟨chars.map .char, mode, rest⟩

/-- The next tokens of a text, none at its end. Each step consumes a character at least. -/
def next? (mode : LexMode) (inForeign : Bool) : Text → Option Lexed
  | [] => none
  | c :: rest => some <|
    match mode with
    | .data =>
      if c = '<' then markup inForeign rest
      else if c = '&' then ampersand .data rest
      else ⟨[dataToken c], .data, rest⟩
    | .rcdata element =>
      if c = '&' then ampersand mode rest else rawStep element true mode c rest
    | .rawtext element => rawStep element true mode c rest
    | .script place => rawStep "script" place.endable (.script (place.step c)) c rest
    | .plaintext => ⟨[rawToken c], mode, rest⟩

/-- The characters that a lexer sees: no byte order mark at the start, and one line feed for a
carriage return with a line feed. -/
def prepare (s : Text) : Text :=
  let rec joinReturns : Text → Text
    | '\r' :: '\n' :: rest => '\n' :: joinReturns rest
    | c :: rest => c :: joinReturns rest
    | [] => []
  joinReturns (match s with | '\uFEFF' :: rest => rest | _ => s)

end Lexer
end Html
end InstanceCatalog
