import InstanceCatalog.Text.Hex
import InstanceCatalog.Yaml.Cursor

namespace InstanceCatalog
namespace Yaml

def simpleEscapes : List (Char × Char) := [
  ('0', '\x00'), ('a', '\x07'), ('b', '\x08'), ('t', '\t'), ('\t', '\t'), ('n', '\n'),
  ('v', '\x0b'), ('f', '\x0c'), ('r', '\r'), ('e', '\x1b'), (' ', ' '), ('"', '"'), ('/', '/'),
  ('\\', '\\'), ('N', '\u0085'), ('_', '\u00A0'), ('L', '\u2028'), ('P', '\u2029')]

def escapeWidth? (c : Char) : Option Nat :=
  if c = 'x' then some 2 else if c = 'u' then some 4 else if c = 'U' then some 8 else none

/-- The character of an escape, from behind the backslash, and the length of its written form. -/
def readEscape? : Text → Option (Char × Nat)
  | [] => none
  | c :: rest =>
    match simpleEscapes.lookup c, escapeWidth? c with
    | some meant, _ => some (meant, 1)
    | none, some width =>
      let digits := rest.take width
      let code := Text.hexValue digits
      if digits.length = width && digits.all Text.isHexDigit && decide code.isValidChar
      then some (Char.ofNat code, width + 1)
      else none
    | none, none => none

/-- A scalar in quotes, from behind the opening one. `read` is kept last character first. -/
def quotedWithin (quote : Char) : Nat → Cursor → Gap → Text → Option (Text × Cursor)
  | 0, _, _, _ => none
  | steps + 1, cursor, gap, read =>
    match cursor.rest with
    | [] => none
    | c :: rest =>
      if isBlank c then quotedWithin quote steps (cursor.skip 1) (gap.addBlank c) read
      else if isBreak c then
        quotedWithin quote steps cursor.skipLine (gap.addBreak cursor.breakText) read
      else if cursor.column = 0 && atDocumentMark cursor.rest then none
      else
        let read := gap.meaning.reverse ++ read
        if quote = '\'' && c = '\'' && startsWith (· == '\'') rest then
          quotedWithin quote steps (cursor.skip 2) .none ('\'' :: read)
        else if c = quote then some (read.reverse, cursor.skip 1)
        else if quote = '"' && c = '\\' then
          if startsWith isBreak rest then
            quotedWithin quote steps (cursor.skip 1).skipLine ⟨[], true, [], []⟩ read
          else match readEscape? rest with
            | none => none
            | some (meant, width) =>
              quotedWithin quote steps (cursor.skip (width + 1)) .none (meant :: read)
        else quotedWithin quote steps (cursor.skip 1) .none (c :: read)

def readQuoted (cursor : Cursor) (quote : Char) : Option (Text × Cursor) :=
  quotedWithin quote cursor.rest.length (cursor.skip 1) .none []

def isFlowMark (c : Char) : Bool :=
  c == ',' || c == '[' || c == ']' || c == '\x7b' || c == '\x7d'

/-- A scalar without quotes. It ends before a comment, a document mark, a value mark or a line
that is not indented by `indent`; inside brackets also before their marks. The answer tells too
whether its last line is over. -/
def plainWithin (inFlow : Bool) (indent : Int) :
    Nat → Cursor → Gap → Text → Option (Text × Cursor × Bool)
  | 0, cursor, gap, read => some (read.reverse, cursor, gap.broken)
  | steps + 1, cursor, gap, read =>
    let ended := some (read.reverse, cursor, gap.broken)
    match cursor.rest with
    | [] => ended
    | c :: rest =>
      if isBlank c then
        if gap.broken && (cursor.column : Int) < indent && c = '\t' then none
        else plainWithin inFlow indent steps (cursor.skip 1) (gap.addBlank c) read
      else if isBreak c then
        plainWithin inFlow indent steps cursor.skipLine (gap.addBreak cursor.breakText) read
      else if gap.broken && !inFlow && (cursor.column : Int) < indent then ended
      else if cursor.column = 0 && atDocumentMark cursor.rest then ended
      else if c = '#' && (gap.broken || !gap.blanks.isEmpty) then ended
      else if inFlow && c = ':' && startsWith (fun d => d == '?' || isFlowMark d) rest then none
      else if (c = ':' && atGap rest) || (inFlow && isFlowMark c) then ended
      else
        plainWithin inFlow indent steps (cursor.skip 1) .none (c :: (gap.meaning.reverse ++ read))

inductive Chomping
  | strip
  | clip
  | keep
deriving DecidableEq, Repr

/-- The marks behind the opening of a block scalar: a chomping mark and an indentation, in any
order. The length of the marks comes last. -/
def blockHeader? (s : Text) : Option (Chomping × Option Nat × Nat) :=
  let chomping? := fun c : Char =>
    if c = '+' then some Chomping.keep else if c = '-' then some Chomping.strip else none
  let digit? := fun c : Char => if c.isDigit then some (c.toNat - 48) else none
  match s with
  | [] => some (.clip, none, 0)
  | c :: rest =>
    match chomping? c, digit? c with
    | some chomping, _ =>
      match rest.head?.bind digit? with
      | some 0 => none
      | some n => some (chomping, some n, 2)
      | none => some (chomping, none, 1)
    | none, some 0 => none
    | none, some n =>
      match rest.head?.bind chomping? with
      | some chomping => some (chomping, some n, 2)
      | none => some (.clip, some n, 1)
    | none, none => some (.clip, none, 0)

/-- Reads indentation and empty lines. A given indentation bounds the spaces that count as such;
the answer has the texts of the breaks and the widest line seen. -/
def blockBreaksWithin (indent : Option Nat) : Nat → Cursor → Text → Nat →
    Option (Text × Nat × Cursor)
  | 0, cursor, breaks, widest => some (breaks, widest, cursor)
  | steps + 1, cursor, breaks, widest =>
    let within := fun c : Cursor => match indent with
      | none => true
      | some n => c.column < n
    match cursor.rest with
    | [] => some (breaks, max widest cursor.column, cursor)
    | c :: _ =>
      if c = ' ' && within cursor then
        blockBreaksWithin indent steps (cursor.skip 1) breaks widest
      else if c = '\t' && within cursor then none
      else if isBreak c then
        blockBreaksWithin indent steps cursor.skipLine (breaks ++ cursor.breakText)
          (max widest cursor.column)
      else some (breaks, max widest cursor.column, cursor)

/-- The lines of a block scalar at an indentation. `lead` is the break before the line and
`breaks` the empty lines after that break; `wasBlank` tells whether the line before began with a
blank. A folded break between two lines without such blanks is a space. -/
def blockLinesWithin (isLiteral : Bool) (indent : Nat) : Nat → Cursor → (wasBlank : Bool) →
    (lead breaks read : Text) → Option (Text × Text × Text × Cursor)
  | 0, cursor, _, lead, breaks, read => some (read, lead, breaks, cursor)
  | steps + 1, cursor, wasBlank, lead, breaks, read =>
    if cursor.rest.isEmpty || cursor.column != indent then some (read, lead, breaks, cursor)
    else
      let isBlankLine := startsWith isBlank cursor.rest
      let joint :=
        if !isLiteral && lead = ['\n'] && !wasBlank && !isBlankLine then
          (if breaks.isEmpty then [' '] else [])
        else lead
      let line := cursor.rest.takeWhile (!isBreak ·)
      let atBreak := cursor.skip line.length
      let next := atBreak.skipLine
      match blockBreaksWithin (some indent) (next.rest.length + 1) next [] 0 with
      | none => none
      | some (breaksAfter, _, after) =>
        blockLinesWithin isLiteral indent steps after isBlankLine atBreak.breakText breaksAfter
          (read ++ joint ++ breaks ++ line)

/-- A block scalar from its opening mark on; `parent` is the indentation around it. -/
def readBlock (cursor : Cursor) (isLiteral : Bool) (parent : Int) : Option (Text × Cursor) := do
  let (chomping, increment, width) ← blockHeader? (cursor.rest.drop 1)
  let cursor := (cursor.skip (width + 1)).skipWhile isBlank
  let cursor := cursor.skipComment
  if !atLineEnd cursor.rest then none
  let cursor := cursor.skipLine
  let given := increment.map fun n => (max parent 0).toNat + n
  let (breaks, widest, cursor) ← blockBreaksWithin given (cursor.rest.length + 1) cursor [] 0
  let indent := given.getD (max (max widest (parent + 1).toNat) 1)
  let (read, lead, breaks, cursor) ←
    blockLinesWithin isLiteral indent (cursor.rest.length + 1) cursor false [] breaks []
  let tail := match chomping with
    | .strip => []
    | .clip => lead
    | .keep => lead ++ breaks
  return (read ++ tail, cursor)

end Yaml
end InstanceCatalog
