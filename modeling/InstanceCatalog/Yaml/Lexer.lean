import InstanceCatalog.Yaml.Scalar

/-!
The lexer of YAML texts. Whether a scalar is a key shows only at the colon behind it, so the lexer
remembers at each level of brackets where a key could have begun and puts the key's token there
afterwards.
-/

namespace InstanceCatalog
namespace Yaml

/-- A place at which a key may have begun. A required one must turn out to be a key. -/
structure KeyPlace where
  required : Bool
  /-- How many tokens come before the key. -/
  position : Nat
  index : Nat
  line : Nat
  column : Nat
deriving DecidableEq, Repr

structure Lexing where
  cursor : Cursor
  tokens : Array Token
  /-- The column of the innermost block, -1 outside all blocks. -/
  indent : Int
  outerIndents : List Int
  /-- The key that may be under way at each level of brackets, the innermost first. -/
  keys : List (Option KeyPlace)
  /-- Whether a key may begin here. -/
  keyAllowed : Bool
  /-- Set behind the end of the text. -/
  finished : Bool

namespace Lexing

def start (s : Text) : Lexing := ⟨.start s, #[], -1, [], [none], true, false⟩

def inFlow (l : Lexing) : Bool := 1 < l.keys.length

def emit (l : Lexing) (t : Token) : Lexing := { l with tokens := l.tokens.push t }

def emitMark (l : Lexing) (t : Token) (width : Nat) : Lexing :=
  { l.emit t with cursor := l.cursor.skip width }

def allowKey (l : Lexing) (allowed : Bool) : Lexing := { l with keyAllowed := allowed }

def insert (l : Lexing) (position : Nat) (t : Token) : Lexing :=
  { l with tokens := (l.tokens.toList.take position ++ t :: l.tokens.toList.drop position).toArray }

def withKey (l : Lexing) (key : Option KeyPlace) : Lexing := { l with keys := key :: l.keys.drop 1 }

def dropKey (l : Lexing) : Option Lexing :=
  match l.keys.head? with
  | some (some key) => if key.required then none else some (l.withKey none)
  | _ => some l

def saveKey (l : Lexing) : Option Lexing :=
  if !l.keyAllowed then some l
  else do
    let l ← l.dropKey
    let required := !l.inFlow && l.indent = l.cursor.column
    return l.withKey
      (some ⟨required, l.tokens.size, l.cursor.index, l.cursor.line, l.cursor.column⟩)

/-- Keys stand on one line and are at most 1024 characters long. -/
def isStale (l : Lexing) (key : KeyPlace) : Bool :=
  key.line < l.cursor.line || key.index + 1024 < l.cursor.index

def dropStaleKeys (l : Lexing) : Option Lexing :=
  let stale := fun key : Option KeyPlace => key.any l.isStale
  if l.keys.any fun key => stale key && key.any (·.required) then none
  else some { l with keys := l.keys.map fun key => if stale key then none else key }

def openBlock (l : Lexing) (column position : Nat) (t : Token) : Lexing :=
  if !l.inFlow && l.indent < column then
    { l.insert position t with indent := column, outerIndents := l.indent :: l.outerIndents }
  else l

def closeBlocks (l : Lexing) (column : Int) : Lexing :=
  if l.inFlow then l else go l l.outerIndents
where
  go (l : Lexing) : List Int → Lexing
    | [] => l
    | outer :: rest =>
      if column < l.indent then
        go { l.emit .blockEnd with indent := outer, outerIndents := rest } rest
      else l

/-- Skips blanks, comments and line breaks. A tab counts as a blank only where no key may begin. -/
def skipSpaceWithin : Nat → Lexing → Lexing
  | 0, l => l
  | steps + 1, l =>
    let bare := match l.cursor.rest with
      | '\uFEFF' :: _ => if l.cursor.column = 0 then l.cursor.skip 1 else l.cursor
      | _ => l.cursor
    let tabs := l.inFlow || !l.keyAllowed
    let cursor := bare.skipWhile fun c => c == ' ' || (tabs && c == '\t')
    let cursor := cursor.skipComment
    if startsWith isBreak cursor.rest then
      skipSpaceWithin steps
        { l with cursor := cursor.skipLine, keyAllowed := l.keyAllowed || !l.inFlow }
    else { l with cursor }

def skipSpace (l : Lexing) : Lexing := l.skipSpaceWithin (l.cursor.rest.length + 1)

/-- Ends the document's blocks before a mark at the start of a line. -/
def leaveBlocks (l : Lexing) : Option Lexing := do
  let l ← (l.closeBlocks (-1)).dropKey
  return l.allowKey false

def atEnd (l : Lexing) : Option Lexing := do
  let l ← l.leaveBlocks
  return { l.emit .streamEnd with finished := true }

def versionNumber? (cursor : Cursor) : Option (Nat × Cursor) :=
  let digits := cursor.rest.takeWhile Char.isDigit
  if digits.isEmpty || 9 < digits.length then none
  else some (Text.decimalValue digits, cursor.skip digits.length)

def version? (cursor : Cursor) : Option (Token × Cursor) := do
  let (major, cursor) ← versionNumber? (cursor.skipWhile isBlank)
  if !startsWith (· == '.') cursor.rest then none
  let (minor, cursor) ← versionNumber? (cursor.skip 1)
  return (.version major minor, cursor)

/-- Letters between two exclamation marks, or one mark with letters behind it. -/
def tagHandle? (cursor : Cursor) : Option (Text × Cursor) :=
  match cursor.rest with
  | '!' :: rest =>
    let name := rest.takeWhile isNameChar
    let after := cursor.skip (name.length + 1)
    if startsWith (· == '!') after.rest then some ('!' :: name ++ ['!'], after.skip 1)
    else some ('!' :: name, after)
  | _ => none

def isUriChar (verbatim : Bool) (c : Char) : Bool :=
  isNameChar c || ";/?:@&=+$.%!~*'()".toList.contains c ||
    (verbatim && (c == ',' || c == '[' || c == ']'))

def uriOctet? : Text → Option Nat
  | '%' :: a :: b :: _ => Text.valueIn? 16 [a, b]
  | _ => none

def octetCount? (octet : Nat) : Option Nat :=
  if octet < 0x80 then some 1
  else if octet < 0xC0 then none
  else if octet < 0xE0 then some 2
  else if octet < 0xF0 then some 3
  else if octet < 0xF8 then some 4
  else none

def moreOctets (s : Text) : Nat → Bool
  | 0 => true
  | n + 1 =>
    match uriOctet? s with
    | some octet => 0x80 ≤ octet && octet < 0xC0 && moreOctets (s.drop 3) n
    | none => false

/-- The text of a tag, with its escapes read. A character beyond ASCII is only checked. -/
def uriWithin (verbatim : Bool) : Nat → Cursor → Text → Option (Text × Cursor)
  | 0, cursor, read => some (read.reverse, cursor)
  | steps + 1, cursor, read =>
    match cursor.rest with
    | [] => some (read.reverse, cursor)
    | c :: _ =>
      if !isUriChar verbatim c then some (read.reverse, cursor)
      else if c = '%' then
        match uriOctet? cursor.rest with
        | none => none
        | some octet =>
          match octetCount? octet with
          | none => none
          | some n =>
            if moreOctets (cursor.rest.drop 3) (n - 1) then
              let meant := if n = 1 then Char.ofNat octet else '\uFFFD'
              uriWithin verbatim steps (cursor.skip (3 * n)) (meant :: read)
            else none
      else uriWithin verbatim steps (cursor.skip 1) (c :: read)

def uri? (cursor : Cursor) (verbatim : Bool) : Option (Text × Cursor) :=
  uriWithin verbatim (cursor.rest.length + 1) cursor []

def tagDirective? (cursor : Cursor) : Option (Token × Cursor) := do
  let (handle, cursor) ← tagHandle? (cursor.skipWhile isBlank)
  if handle != ['!'] && handle.getLast? != some '!' then none
  if !startsWith isBlank cursor.rest then none
  let (start, cursor) ← uri? (cursor.skipWhile isBlank) true
  if start.isEmpty || !atGap cursor.rest then none
  return (.tagDirective handle start, cursor)

def fetchDirective (l : Lexing) : Option Lexing := do
  let l ← l.leaveBlocks
  let name := (l.cursor.rest.drop 1).takeWhile isNameChar
  let cursor := l.cursor.skip (name.length + 1)
  if !atGap cursor.rest then none
  let (token, cursor) ←
    if name = "YAML".toList then version? cursor
    else if name = "TAG".toList then tagDirective? cursor
    else none
  let cursor := cursor.skipWhile isBlank
  let cursor := cursor.skipComment
  if !atLineEnd cursor.rest then none
  return { l.emit token with cursor := cursor.skipLine }

def fetchDocumentMark (l : Lexing) (t : Token) : Option Lexing := do
  let l ← l.leaveBlocks
  return l.emitMark t 3

def fetchFlowStart (l : Lexing) (t : Token) : Option Lexing := do
  let l ← l.saveKey
  return ({ l with keys := none :: l.keys }.allowKey true).emitMark t 1

def fetchFlowEnd (l : Lexing) (t : Token) : Option Lexing := do
  let l ← l.dropKey
  let l := if l.inFlow then { l with keys := l.keys.drop 1 } else l
  return (l.allowKey false).emitMark t 1

def fetchFlowEntry (l : Lexing) : Option Lexing := do
  let l ← l.dropKey
  return (l.allowKey true).emitMark .flowEntry 1

def fetchBlockEntry (l : Lexing) : Option Lexing := do
  if !l.inFlow && !l.keyAllowed then none
  let l := l.openBlock l.cursor.column l.tokens.size .blockSequenceStart
  let l ← l.dropKey
  return (l.allowKey true).emitMark .blockEntry 1

def fetchKey (l : Lexing) : Option Lexing := do
  if !l.inFlow && !l.keyAllowed then none
  let l := l.openBlock l.cursor.column l.tokens.size .blockMappingStart
  let l ← l.dropKey
  return (l.allowKey !l.inFlow).emitMark .key 1

def fetchValue (l : Lexing) : Option Lexing :=
  match l.keys.head? with
  | some (some key) =>
    let l := (l.insert key.position .key).openBlock key.column key.position .blockMappingStart
    some (((l.withKey none).allowKey false).emitMark .value 1)
  | _ =>
    if !l.inFlow && !l.keyAllowed then none
    else
      let l := l.openBlock l.cursor.column l.tokens.size .blockMappingStart
      some ((l.allowKey !l.inFlow).emitMark .value 1)

def fetchName (l : Lexing) (t : Text → Token) : Option Lexing := do
  let l ← l.saveKey
  let name := (l.cursor.rest.drop 1).takeWhile isNameChar
  let cursor := l.cursor.skip (name.length + 1)
  let ended := atGap cursor.rest || startsWith ("?:,]\x7d%@`".toList.contains ·) cursor.rest
  if name.isEmpty || !ended then none
  return { (l.allowKey false).emit (t name) with cursor }

/-- A tag in one of its forms: `!<uri>`, `!handle!suffix`, `!suffix` or `!`. -/
def readTag? (cursor : Cursor) : Option (Token × Cursor) :=
  if startsWith (· == '<') (cursor.rest.drop 1) then do
    let (suffix, cursor) ← uri? (cursor.skip 2) true
    if suffix.isEmpty || !startsWith (· == '>') cursor.rest then none
    return (.tag [] suffix, cursor.skip 1)
  else do
    let (handle, after) ← tagHandle? cursor
    let (rest, cursor) ← uri? after false
    if 1 < handle.length && handle.getLast? = some '!' then
      if rest.isEmpty then none
      return (.tag handle rest, cursor)
    else
      let suffix := handle.drop 1 ++ rest
      return (if suffix.isEmpty then .tag [] ['!'] else .tag ['!'] suffix, cursor)

def fetchTag (l : Lexing) : Option Lexing := do
  let l ← l.saveKey
  let (token, cursor) ← readTag? l.cursor
  if !(atGap cursor.rest || (l.inFlow && startsWith (· == ',') cursor.rest)) then none
  return { (l.allowKey false).emit token with cursor }

def fetchBlockScalar (l : Lexing) (style : ScalarStyle) : Option Lexing := do
  let l ← l.dropKey
  let (text, cursor) ← readBlock l.cursor (style == .literal) l.indent
  return { (l.allowKey true).emit (.scalar style text) with cursor }

def fetchQuoted (l : Lexing) (quote : Char) : Option Lexing := do
  let l ← l.saveKey
  let (text, cursor) ← readQuoted l.cursor quote
  return { (l.allowKey false).emit (.scalar .quoted text) with cursor }

def fetchPlain (l : Lexing) : Option Lexing := do
  let l ← l.saveKey
  let (text, cursor, broken) ←
    plainWithin l.inFlow (l.indent + 1) l.cursor.rest.length l.cursor .none []
  return { (l.allowKey broken).emit (.scalar .plain text) with cursor }

/-- The characters that begin no plain scalar. -/
def indicators : Text := "-?:,[]\x7b\x7d#&*!|>'\"%@`".toList

/-- Whether a plain scalar begins here: a dash, and outside brackets a question mark or colon too,
begins one when no gap follows. -/
def startsPlain (l : Lexing) (c : Char) (rest : Text) : Bool :=
  !indicators.contains c || (c == '-' && !startsWith isBlank rest) ||
    (!l.inFlow && (c == '?' || c == ':') && !atGap rest)

def fetchAt (l : Lexing) (c : Char) (rest : Text) : Option Lexing :=
  let gapFollows := atGap rest
  if l.cursor.column = 0 && c = '%' then l.fetchDirective
  else if l.cursor.column = 0 && atDocumentMark (c :: rest) then
    l.fetchDocumentMark (if c = '-' then .documentStart else .documentEnd)
  else if c = '[' then l.fetchFlowStart .flowSequenceStart
  else if c = '\x7b' then l.fetchFlowStart .flowMappingStart
  else if c = ']' then l.fetchFlowEnd .flowSequenceEnd
  else if c = '\x7d' then l.fetchFlowEnd .flowMappingEnd
  else if c = ',' then l.fetchFlowEntry
  else if c = '-' && gapFollows then l.fetchBlockEntry
  else if c = '?' && (l.inFlow || gapFollows) then l.fetchKey
  else if c = ':' && (l.inFlow || gapFollows) then l.fetchValue
  else if c = '*' then l.fetchName .alias_
  else if c = '&' then l.fetchName .anchor
  else if c = '!' then l.fetchTag
  else if c = '|' && !l.inFlow then l.fetchBlockScalar .literal
  else if c = '>' && !l.inFlow then l.fetchBlockScalar .folded
  else if c = '\'' || c = '"' then l.fetchQuoted c
  else if isBlank c || isBreak c then none
  else if l.startsPlain c rest then l.fetchPlain
  else none

/-- Reads the next token, with the block tokens that its place implies. -/
def fetch (l : Lexing) : Option Lexing := do
  let l ← l.skipSpace.dropStaleKeys
  match l.cursor.rest with
  | [] => l.atEnd
  | c :: rest => (l.closeBlocks l.cursor.column).fetchAt c rest

def fetchAll : Nat → Lexing → Option Lexing
  | 0, _ => none
  | steps + 1, l => if l.finished then some l else do fetchAll steps (← l.fetch)

end Lexing

def withoutMark : Text → Text
  | '\uFEFF' :: rest => rest
  | s => s

/-- The tokens of a text, none if it has an error of form. -/
def tokens? (s : Text) : Option (List Token) :=
  if s.all isAllowed then
    (Lexing.fetchAll (s.length + 2) (.start (withoutMark s))).map (·.tokens.toList)
  else none

end Yaml
end InstanceCatalog
